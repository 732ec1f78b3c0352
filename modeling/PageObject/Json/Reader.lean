import PageObject.Json.Scan

namespace PageObject.Json

def readNumber {input : List Char} (first : Parsed Char input) :
    Except TextError (Parsed Json input) := do
  let number ← scanNumber .unexpectedEnd (first.value :: first.rest)
  match number.value.value? with
  | some value => return first.startingAt (number.map fun _ => .number value)
  | none => .error .malformed

def readColon {α : Type} {input : List Char} (key : Parsed α input) :
    Except TextError (Parsed α input) :=
  match next? key.rest with
  | none => .error .unexpectedEnd
  | some colon =>
    if colon.value = ':' then .ok (key.behind (colon.map fun _ => key.value))
    else .error .malformed

mutual

/-- Reads a value in which at most `depth` containers are open at once. -/
def readValue (depth : Nat) (input : List Char) : Except TextError (Parsed Json input) :=
  match next? input with
  | none => .error .unexpectedEnd
  | some first =>
    have := first.shorter
    match first.value with
    | '"' => do return first.behind ((← scanString first.rest).map .string)
    | 'n' => do return first.behind ((← scanWord 'u' ['l', 'l'] first.rest).map fun _ => .null)
    | 't' => do return first.behind ((← scanWord 'r' ['u', 'e'] first.rest).map fun _ => .bool true)
    | 'f' => do
      return first.behind ((← scanWord 'a' ['l', 's', 'e'] first.rest).map fun _ => .bool false)
    | '[' =>
      match depth with
      | 0 => .error .malformed
      | depth + 1 => do return first.behind ((← readItems depth first.rest true []).map .array)
    | '{' =>
      match depth with
      | 0 => .error .malformed
      | depth + 1 => do return first.behind ((← readFields depth first.rest true []).map .object)
    | c => if c = '-' ∨ Text.isAsciiDigit c then readNumber first else .error .malformed
termination_by 2 * input.length
decreasing_by all_goals omega

def readItems (depth : Nat) (input : List Char) (first : Bool) (done : List Json) :
    Except TextError (Parsed (List Json) input) :=
  match next? input with
  | none => .error .unexpectedEnd
  | some start =>
    if start.value = ']' then
      if first then .ok (start.map fun _ => done.reverse) else .error .malformed
    else do
      have := start.length_start_le
      let item := start.startingAt (← readValue depth (start.value :: start.rest))
      have := item.shorter
      match next? item.rest with
      | none => .error .unexpectedEnd
      | some mark =>
        have := mark.shorter
        if mark.value = ']' then
          return item.behind (mark.map fun _ => (item.value :: done).reverse)
        else if mark.value = ',' then
          return (item.behind mark).behind (← readItems depth mark.rest false (item.value :: done))
        else .error .malformed
termination_by 2 * input.length + 1
decreasing_by all_goals omega

def readFields (depth : Nat) (input : List Char) (first : Bool) (done : Fields) :
    Except TextError (Parsed Fields input) :=
  match next? input with
  | none => .error .unexpectedEnd
  | some start =>
    if start.value = '}' then
      if first then .ok (start.map fun _ => done) else .error .malformed
    else if start.value = '"' then do
      let key ← readColon (start.behind (← scanString start.rest))
      have := key.shorter
      let value := key.behind (← readValue depth key.rest)
      have := value.shorter
      let fields := done.put key.value value.value
      match next? value.rest with
      | none => .error .unexpectedEnd
      | some mark =>
        have := mark.shorter
        if mark.value = '}' then return value.behind (mark.map fun _ => fields)
        else if mark.value = ',' then
          return (value.behind mark).behind (← readFields depth mark.rest false fields)
        else .error .malformed
    else .error .malformed
termination_by 2 * input.length + 1
decreasing_by all_goals omega

end

def maxDepth : Nat := 127

def readWithin (depth : Nat) (text : String) : Except TextError Json := do
  let value ← readValue depth text.toList
  if (skipSpacing value.rest).isEmpty then return value.value else .error .malformed

def read (text : String) : Except TextError Json := readWithin maxDepth text

end PageObject.Json
