import PageObject.Config
import PageObject.Json.Skip

namespace PageObject.Config

open Json

structure Draft where
  corePackage : Option String := none
  listImport : Option String := none
  packageMapping : Option PackageMapping := none

def Draft.config (draft : Draft) : Config :=
  let standard : Config := {}
  { corePackage := draft.corePackage.getD standard.corePackage
    listImport := draft.listImport.getD standard.listImport
    packageMapping := draft.packageMapping.getD standard.packageMapping }

/-- The error for a value that is read without its own error but is of the wrong kind. -/
def refused {α : Type} : Except TextError α → TextError
  | .error e => e
  | .ok _ => .wrongShape

/-- The error for a value of the wrong kind that starts with the character of `first`. Words,
numbers and strings are read to their ends, so what is wrong inside them comes before. -/
def wrongKind {input : List Char} (first : Parsed Char input) : TextError :=
  match first.value with
  | '"' => refused (scanString first.rest)
  | 'n' => refused (scanWord 'u' ['l', 'l'] first.rest)
  | 't' => refused (scanWord 'r' ['u', 'e'] first.rest)
  | 'f' => refused (scanWord 'a' ['l', 's', 'e'] first.rest)
  | '[' | '{' => .wrongShape
  | c => if c = '-' ∨ Text.isAsciiDigit c then refused (readNumber first) else .malformed

def readString (input : List Char) : Except TextError (Parsed String input) :=
  match next? input with
  | none => .error .unexpectedEnd
  | some first =>
    if first.value = '"' then do return first.behind (← scanString first.rest)
    else .error (wrongKind first)

def readName {input : List Char} (opening : Parsed Char input) :
    Except TextError (Parsed (Option String) input) :=
  if opening.value = '"' then do
    return (opening.behind (← scanString opening.rest)).map some
  else .error .malformed

def readKey (isFirst : Bool) (input : List Char) :
    Except TextError (Parsed (Option String) input) :=
  match next? input with
  | none => .error .unexpectedEnd
  | some first =>
    if first.value = '}' then .ok (first.map fun _ => none)
    else if isFirst then readName first
    else if first.value = ',' then
      match next? first.rest with
      | none => .error .unexpectedEnd
      | some opening => readName (first.behind opening)
    else .error .malformed

def readEntries (isFirst : Bool) (mapping : PackageMapping) (input : List Char) :
    Except TextError (Parsed PackageMapping input) := do
  let key ← readKey isFirst input
  match key.value with
  | none => return key.map fun _ => mapping
  | some name =>
    let colon ← readColon key
    let package := colon.behind (← readString colon.rest)
    have := package.shorter
    return package.behind (← readEntries false (mapping.insert name package.value) package.rest)
termination_by input.length

def readMapping (input : List Char) : Except TextError (Parsed PackageMapping input) :=
  match next? input with
  | none => .error .unexpectedEnd
  | some first =>
    if first.value = '{' then do return first.behind (← readEntries true {} first.rest)
    else .error (wrongKind first)

def readOnce {α : Type} (earlier : Option α)
    (read : (rest : List Char) → Except TextError (Parsed α rest)) {input : List Char}
    (key : Parsed (Option String) input) : Except TextError (Parsed α input) :=
  if earlier.isSome then .error .wrongShape
  else do
    let colon ← readColon key
    return colon.behind (← read colon.rest)

def readSetting (draft : Draft) (name : String) {input : List Char}
    (key : Parsed (Option String) input) : Except TextError (Parsed Draft input) :=
  if name = "corePackage" then do
    let setting ← readOnce draft.corePackage readString key
    return setting.map fun value => { draft with corePackage := some value }
  else if name = "listImport" then do
    let setting ← readOnce draft.listImport readString key
    return setting.map fun value => { draft with listImport := some value }
  else if name = "packageMapping" then do
    let setting ← readOnce draft.packageMapping readMapping key
    return setting.map fun value => { draft with packageMapping := some value }
  else do
    let skipped ← readOnce none skipValue key
    return skipped.map fun _ => draft

def readSettings (isFirst : Bool) (draft : Draft) (input : List Char) :
    Except TextError (Parsed Draft input) := do
  let key ← readKey isFirst input
  match key.value with
  | none => return key.map fun _ => draft
  | some name =>
    let setting ← readSetting draft name key
    have := setting.shorter
    return setting.behind (← readSettings false setting.value setting.rest)
termination_by input.length

inductive ItemStart where
  | item (text : List Char)
  | done (rest : List Char)

def nextItem (isFirst : Bool) (text : List Char) : Except TextError ItemStart :=
  match next? text with
  | none => .error .unexpectedEnd
  | some first =>
    if first.value = ']' then .ok (.done first.rest)
    else if isFirst then .ok (.item (first.value :: first.rest))
    else if first.value = ',' then
      match next? first.rest with
      | none => .error .unexpectedEnd
      | some start =>
        if start.value = ']' then .error .malformed else .ok (.item (start.value :: start.rest))
    else .error .malformed

def readPositions (text : List Char) : Except TextError (Draft × List Char) := do
  match ← nextItem true text with
  | .done rest => return ({}, rest)
  | .item text =>
    let corePackage ← readString text
    let draft : Draft := { corePackage := some corePackage.value }
    match ← nextItem false corePackage.rest with
    | .done rest => return (draft, rest)
    | .item text =>
      let listImport ← readString text
      let draft := { draft with listImport := some listImport.value }
      match ← nextItem false listImport.rest with
      | .done rest => return (draft, rest)
      | .item text =>
        let packageMapping ← readMapping text
        let draft := { draft with packageMapping := some packageMapping.value }
        match next? packageMapping.rest with
        | none => .error .unexpectedEnd
        | some last => if last.value = ']' then return (draft, last.rest) else .error .malformed

def readFront (text : List Char) : Except TextError (Draft × List Char) :=
  match next? text with
  | none => .error .unexpectedEnd
  | some first =>
    if first.value = '{' then do
      let settings ← readSettings true {} first.rest
      return (settings.value, settings.rest)
    else if first.value = '[' then readPositions first.rest
    else .error (wrongKind first)

def read (text : String) : Except TextError Config := do
  let (draft, rest) ← readFront text.toList
  if (skipSpacing rest).isEmpty then return draft.config else .error .malformed

end PageObject.Config
