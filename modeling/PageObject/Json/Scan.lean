import PageObject.Json.Basic
import PageObject.Text.DecimalDigit

namespace PageObject.Json

open Text

/-- Why text could not be read: it ended too early, it is not written as it should be, or it holds
another kind of value than the one asked for. -/
inductive TextError where
  | unexpectedEnd
  | malformed
  | wrongShape
deriving DecidableEq, Repr

/-- A value read from the front of a text, and the shorter text behind it. -/
structure Parsed (α : Type) (input : List Char) where
  value : α
  rest : List Char
  shorter : rest.length < input.length

namespace Parsed

variable {α β : Type} {input : List Char}

def map (parsed : Parsed α input) (f : α → β) : Parsed β input :=
  ⟨f parsed.value, parsed.rest, parsed.shorter⟩

def behind (first : Parsed α input) (next : Parsed β first.rest) : Parsed β input :=
  ⟨next.value, next.rest, Nat.lt_trans next.shorter first.shorter⟩

def startingAt (first : Parsed Char input) (whole : Parsed β (first.value :: first.rest)) :
    Parsed β input :=
  ⟨whole.value, whole.rest, Nat.lt_of_lt_of_le whole.shorter first.shorter⟩

def afterChar (c : Char) (parsed : Parsed α input) : Parsed α (c :: input) :=
  ⟨parsed.value, parsed.rest, Nat.lt_succ_of_lt parsed.shorter⟩

def char (c : Char) (rest : List Char) : Parsed Char (c :: rest) :=
  ⟨c, rest, Nat.lt_succ_self rest.length⟩

theorem length_start_le (first : Parsed Char input) :
    (first.value :: first.rest).length ≤ input.length := first.shorter

theorem rest_behind_lt (first : Parsed α input) (next : Parsed β first.rest) :
    (first.behind next).rest.length < first.rest.length := next.shorter

theorem rest_startingAt_le (first : Parsed Char input)
    (whole : Parsed β (first.value :: first.rest)) :
    (first.startingAt whole).rest.length ≤ first.rest.length := Nat.le_of_lt_succ whole.shorter

end Parsed

def isSpacing (c : Char) : Bool := c = ' ' || c = '\t' || c = '\n' || c = '\r'

theorem length_le_self (input : List Char) : input.length ≤ input.length := Nat.le_refl input.length

def skipSpacing (input : List Char) : List Char := input.dropWhile isSpacing

theorem length_skipSpacing_le (input : List Char) : (skipSpacing input).length ≤ input.length :=
  (List.dropWhile_sublist isSpacing).length_le

def next? (input : List Char) : Option (Parsed Char input) :=
  match h : skipSpacing input with
  | [] => none
  | c :: rest => some ⟨c, rest, by
      have := length_skipSpacing_le input
      rw [h] at this
      exact this⟩

def scanLetter (letter : Char) (input : List Char) : Except TextError (Parsed Unit input) :=
  match input with
  | [] => .error .unexpectedEnd
  | c :: rest =>
    if c = letter then .ok ((Parsed.char c rest).map fun _ => ()) else .error .malformed

def scanWord (letter : Char) (more input : List Char) : Except TextError (Parsed Unit input) := do
  let first ← scanLetter letter input
  match more with
  | [] => return first
  | next :: others => return first.behind (← scanWord next others first.rest)

def hexValue? (c : Char) : Option Nat :=
  if '0' ≤ c ∧ c ≤ '9' then some (c.toNat - '0'.toNat)
  else if 'a' ≤ c ∧ c ≤ 'f' then some (c.toNat - 'a'.toNat + 10)
  else if 'A' ≤ c ∧ c ≤ 'F' then some (c.toNat - 'A'.toNat + 10)
  else none

def utf8Length (text : List Char) : Nat := text.foldl (fun length c => length + c.utf8Size) 0

/-- Reads four hexadecimal digits. A text of less than four bytes has ended too early. -/
def scanHex (input : List Char) : Except TextError (Parsed Nat input) :=
  match input with
  | a :: b :: c :: d :: rest =>
    match hexValue? a, hexValue? b, hexValue? c, hexValue? d with
    | some a, some b, some c, some d =>
      .ok ⟨((a * 16 + b) * 16 + c) * 16 + d, rest, by simp only [List.length_cons]; omega⟩
    | _, _, _, _ => .error .malformed
  | _ => .error (if utf8Length input < 4 then .unexpectedEnd else .malformed)

def isHighHalf (unit : Nat) : Bool := 0xD800 ≤ unit && unit < 0xDC00

def isLowHalf (unit : Nat) : Bool := 0xDC00 ≤ unit && unit < 0xE000

def pairedChar (high low : Nat) : Char :=
  Char.ofNat (0x10000 + (high - 0xD800) * 0x400 + (low - 0xDC00))

def scanLowHalf (high : Nat) (input : List Char) : Except TextError (Parsed Char input) :=
  match input with
  | [] | ['\\'] => .error .unexpectedEnd
  | '\\' :: 'u' :: digits => do
    let low ← scanHex digits
    if isLowHalf low.value then
      return ((low.map (pairedChar high)).afterChar 'u').afterChar '\\'
    else .error .malformed
  | _ => .error .malformed

def scanUnits (input : List Char) : Except TextError (Parsed Char input) := do
  let unit ← scanHex input
  if isLowHalf unit.value then .error .malformed
  else if isHighHalf unit.value then return unit.behind (← scanLowHalf unit.value unit.rest)
  else return unit.map Char.ofNat

def escaped? (c : Char) : Option Char :=
  match c with
  | '"' => some '"'
  | '\\' => some '\\'
  | '/' => some '/'
  | 'b' => some '\x08'
  | 'f' => some '\x0c'
  | 'n' => some '\n'
  | 'r' => some '\r'
  | 't' => some '\t'
  | _ => none

def scanEscape (input : List Char) : Except TextError (Parsed Char input) :=
  match input with
  | [] => .error .unexpectedEnd
  | 'u' :: digits => do return (← scanUnits digits).afterChar 'u'
  | c :: rest =>
    match escaped? c with
    | some character => .ok ((Parsed.char c rest).map fun _ => character)
    | none => .error .malformed

def scanCharacters {input : List Char} (done rest : List Char) (h : rest.length ≤ input.length) :
    Except TextError (Parsed String input) :=
  match rest with
  | [] => .error .unexpectedEnd
  | c :: tail =>
    if c = '"' then .ok ⟨String.ofList done.reverse, tail, h⟩
    else if c = '\\' then
      match scanEscape tail with
      | .error e => .error e
      | .ok character =>
        have := character.shorter
        scanCharacters (character.value :: done) character.rest
          (by simp only [List.length_cons] at h; omega)
    else if c.toNat < 0x20 then .error .malformed
    else scanCharacters (c :: done) tail (Nat.le_of_succ_le h)
termination_by rest.length
decreasing_by all_goals simp only [List.length_cons]; omega

def scanString (input : List Char) : Except TextError (Parsed String input) :=
  scanCharacters [] input (length_le_self input)

structure NumberText where
  negative : Bool
  integer : List Char
  fraction : List Char := []
  exponent? : Option Int := none

def digitSpan (input : List Char) : List Char × List Char :=
  (input.takeWhile isAsciiDigit, input.dropWhile isAsciiDigit)

theorem length_digitSpan_le (input : List Char) : (digitSpan input).2.length ≤ input.length :=
  (List.dropWhile_sublist isAsciiDigit).length_le

def scanDigits (atEnd : TextError) (input : List Char) :
    Except TextError (Parsed (List Char) input) :=
  match input with
  | [] => .error atEnd
  | c :: rest =>
    if isAsciiDigit c then
      .ok ⟨c :: (digitSpan rest).1, (digitSpan rest).2,
        Nat.lt_succ_of_le (length_digitSpan_le rest)⟩
    else .error .malformed

def scanInteger (atEnd : TextError) (input : List Char) :
    Except TextError (Parsed (List Char) input) := do
  let digits ← scanDigits atEnd input
  match digits.value with
  | '0' :: _ :: _ => .error .malformed
  | _ => return digits

def scanFraction {input : List Char} (atEnd : TextError) (number : Parsed NumberText input) :
    Except TextError (Parsed NumberText input) :=
  match number with
  | ⟨text, '.' :: rest, shorter⟩ => do
    let digits ← scanDigits atEnd rest
    return Parsed.behind ⟨(), '.' :: rest, shorter⟩
      ((digits.map fun fraction => { text with fraction }).afterChar '.')
  | other => .ok other

def scanSigned (atEnd : TextError) (input : List Char) : Except TextError (Parsed Int input) :=
  match input with
  | '-' :: tail => do
    return ((← scanDigits atEnd tail).map fun digits => -(digitsValue digits : Int)).afterChar '-'
  | '+' :: tail => do
    return ((← scanDigits atEnd tail).map fun digits => (digitsValue digits : Int)).afterChar '+'
  | other => do return (← scanDigits atEnd other).map fun digits => (digitsValue digits : Int)

def scanExponent {input : List Char} (atEnd : TextError) (number : Parsed NumberText input) :
    Except TextError (Parsed NumberText input) :=
  match number with
  | ⟨text, mark :: rest, shorter⟩ =>
    if mark = 'e' ∨ mark = 'E' then do
      let exponent ← scanSigned atEnd rest
      return Parsed.behind ⟨(), mark :: rest, shorter⟩
        ((exponent.map fun exponent => { text with exponent? := some exponent }).afterChar mark)
    else .ok ⟨text, mark :: rest, shorter⟩
  | other => .ok other

def scanUnsigned (atEnd : TextError) (negative : Bool) (input : List Char) :
    Except TextError (Parsed NumberText input) := do
  let integer ← scanInteger atEnd input
  let number ← scanFraction atEnd (integer.map fun integer => { negative, integer })
  scanExponent atEnd number

def scanNumber (atEnd : TextError) (input : List Char) :
    Except TextError (Parsed NumberText input) :=
  match input with
  | '-' :: rest => do return (← scanUnsigned atEnd true rest).afterChar '-'
  | other => scanUnsigned atEnd false other

namespace NumberText

def wordLimit : Nat := Nat.pow 2 64

/-- Adds digits to a significand while it stays below `wordLimit`, and counts the others. -/
def gather (significand : Nat) : List Char → Nat × Nat
  | [] => (significand, 0)
  | c :: rest =>
    let longer := 10 * significand + digitsValue [c]
    if longer < wordLimit then gather longer rest else (significand, rest.length + 1)

/-- The binary fraction nearest to the digits that a 64-bit significand holds; integer digits beyond
them count as zeros. A number out of range has none. -/
def magnitude? (number : NumberText) : Option Decimal.Binary64 :=
  let (whole, beyond) := gather 0 number.integer
  let (significand, unread) := gather whole number.fraction
  let places := number.fraction.length - unread
  Decimal.Binary64.ofDecimal significand ((beyond : Int) - places + number.exponent?.getD 0)

/-- The integer written, if there is no fraction and no exponent and 64 bits hold it. A zero with a
minus sign is no integer. -/
def integer? (number : NumberText) : Option Int :=
  let value := digitsValue number.integer
  if number.fraction.isEmpty && number.exponent?.isNone then
    if number.negative then
      if 0 < value ∧ value ≤ wordLimit / 2 then some (-value) else none
    else if value < wordLimit then some value
    else none
  else none

def value? (number : NumberText) : Option Number :=
  match number.integer? with
  | some value => some (.int value)
  | none => number.magnitude?.map (.float number.negative)

end NumberText

end PageObject.Json
