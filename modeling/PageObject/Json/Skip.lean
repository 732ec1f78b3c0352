import PageObject.Json.Reader

namespace PageObject.Json

inductive Bracket where
  | array
  | object
deriving DecidableEq, Repr

def Bracket.closing : Bracket → Char
  | .array => ']'
  | .object => '}'

def skipEscape (input : List Char) : Except TextError (Parsed Unit input) :=
  match input with
  | [] => .error .unexpectedEnd
  | 'u' :: digits => do return ((← scanHex digits).afterChar 'u').map fun _ => ()
  | c :: rest =>
    if (escaped? c).isSome then .ok ((Parsed.char c rest).map fun _ => ()) else .error .malformed

def skipCharacters {input : List Char} (rest : List Char) (h : rest.length ≤ input.length) :
    Except TextError (Parsed Unit input) :=
  match rest with
  | [] => .error .unexpectedEnd
  | c :: tail =>
    if c = '"' then .ok ⟨(), tail, h⟩
    else if c = '\\' then
      match skipEscape tail with
      | .error e => .error e
      | .ok escape =>
        have := escape.shorter
        skipCharacters escape.rest (by simp only [List.length_cons] at h; omega)
    else if c.toNat < 0x20 then .error .malformed
    else skipCharacters tail (Nat.le_of_succ_le h)
termination_by rest.length
decreasing_by all_goals simp only [List.length_cons]; omega

def skipString (input : List Char) : Except TextError (Parsed Unit input) :=
  skipCharacters input (length_le_self input)

variable {input : List Char}

mutual

/-- Passes over the value that starts with the character of `first`, and on to the end of the
containers of `stack`, innermost first. -/
def skipValueFrom (stack : List Bracket) (first : Parsed Char input) :
    Except TextError (Parsed Unit input) :=
  match first.value with
  | '"' =>
    match skipString first.rest with
    | .error e => .error e
    | .ok text =>
      have := first.rest_behind_lt text
      skipBehind stack (first.behind text)
  | 'n' =>
    match scanWord 'u' ['l', 'l'] first.rest with
    | .error e => .error e
    | .ok word =>
      have := first.rest_behind_lt word
      skipBehind stack (first.behind word)
  | 't' =>
    match scanWord 'r' ['u', 'e'] first.rest with
    | .error e => .error e
    | .ok word =>
      have := first.rest_behind_lt word
      skipBehind stack (first.behind word)
  | 'f' =>
    match scanWord 'a' ['l', 's', 'e'] first.rest with
    | .error e => .error e
    | .ok word =>
      have := first.rest_behind_lt word
      skipBehind stack (first.behind word)
  | '[' => skipInside .array stack first
  | '{' => skipInside .object stack first
  | c =>
    if c = '-' ∨ Text.isAsciiDigit c then
      match scanNumber .malformed (first.value :: first.rest) with
      | .error e => .error e
      | .ok numeral =>
        have := first.rest_startingAt_le (numeral.map fun _ => ())
        skipBehind stack (first.startingAt (numeral.map fun _ => ()))
    else .error .malformed
termination_by 3 * first.rest.length + 1
decreasing_by all_goals omega

def skipInside (bracket : Bracket) (stack : List Bracket) (opening : Parsed Char input) :
    Except TextError (Parsed Unit input) :=
  match next? opening.rest with
  | none => .error .unexpectedEnd
  | some first =>
    if first.value = bracket.closing then
      have := opening.rest_behind_lt (first.map fun _ => ())
      skipBehind stack (opening.behind (first.map fun _ => ()))
    else
      have := opening.rest_behind_lt first
      skipPart bracket stack (opening.behind first)
termination_by 3 * opening.rest.length
decreasing_by all_goals omega

def skipPart (bracket : Bracket) (stack : List Bracket) (first : Parsed Char input) :
    Except TextError (Parsed Unit input) :=
  match bracket with
  | .array => skipValueFrom (.array :: stack) first
  | .object =>
    if first.value = '"' then
      match skipString first.rest with
      | .error e => .error e
      | .ok key =>
        match next? key.rest with
        | none => .error .unexpectedEnd
        | some colon =>
          if colon.value = ':' then
            match next? colon.rest with
            | none => .error .unexpectedEnd
            | some value =>
              have := first.rest_behind_lt ((key.behind colon).behind value)
              skipValueFrom (.object :: stack) (first.behind ((key.behind colon).behind value))
          else .error .malformed
    else .error .malformed
termination_by 3 * first.rest.length + 2
decreasing_by all_goals omega

def skipBehind (stack : List Bracket) (done : Parsed Unit input) :
    Except TextError (Parsed Unit input) :=
  match stack with
  | [] => .ok done
  | bracket :: outer =>
    match next? done.rest with
    | none => .error .unexpectedEnd
    | some mark =>
      if mark.value = ',' then
        match next? mark.rest with
        | none => .error .unexpectedEnd
        | some part =>
          have := done.rest_behind_lt (mark.behind part)
          skipPart bracket outer (done.behind (mark.behind part))
      else if mark.value = bracket.closing then
        have := done.rest_behind_lt (mark.map fun _ => ())
        skipBehind outer (done.behind (mark.map fun _ => ()))
      else .error .malformed
termination_by 3 * done.rest.length
decreasing_by all_goals omega

end

def skipValue (input : List Char) : Except TextError (Parsed Unit input) :=
  match next? input with
  | none => .error .unexpectedEnd
  | some first => skipValueFrom [] first

end PageObject.Json
