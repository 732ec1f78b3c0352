import Mathlib.Tactic.SplitIfs
import PageObject.Json.Scan
import PageObject.Text.Quoted

namespace PageObject.Text

/-- A character that may not stand in a constant as it is: it ends the constant, the line or an escape. -/
def breaksConstant (c : Char) : Bool := c = '"' || c = '\\' || c = '\n' || c = '\r'

def escapedAs? (mark : Char) : Option Char := (Json.escaped? mark).filter (· ≠ '/')

/-- The character whose code four hexadecimal digits give. Such an escape is replaced before the constant is read,
so the character must be one that may stand there. -/
def escapedByCode? (a b c d : Char) : Option Char := do
  let code := ((((← Json.hexValue? a) * 16 + (← Json.hexValue? b)) * 16 + (← Json.hexValue? c)) * 16 +
    (← Json.hexValue? d))
  if code.isValidChar ∧ breaksConstant (Char.ofNat code) = false then some (Char.ofNat code) else none

/-- Reads a constant from behind its opening quote: the text that it stands for, and what follows its closing
quote. -/
def readCharacters? : List Char → Option (List Char × List Char)
  | [] => none
  | '"' :: rest => some ([], rest)
  | '\\' :: 'u' :: a :: b :: c :: d :: rest => do
    let character ← escapedByCode? a b c d
    (readCharacters? rest).map (Prod.map (character :: ·) id)
  | '\\' :: mark :: rest => do
    let character ← escapedAs? mark
    (readCharacters? rest).map (Prod.map (character :: ·) id)
  | c :: rest =>
    if breaksConstant c then none else (readCharacters? rest).map (Prod.map (c :: ·) id)

def readConstant? : List Char → Option (List Char × List Char)
  | '"' :: rest => readCharacters? rest
  | _ => none

theorem hexValue?_hexDigit {n : Nat} (small : n < 16) : Json.hexValue? (hexDigit n) = some n := by
  have digits : ∀ n < 16, Json.hexValue? (hexDigit n) = some n := by decide
  exact digits n small

theorem escapedByCode?_of_control {c : Char} (control : c.toNat < 0x20) (stands : breaksConstant c = false) :
    escapedByCode? (hexDigit (c.toNat / 4096 % 16)) (hexDigit (c.toNat / 256 % 16))
      (hexDigit (c.toNat / 16 % 16)) (hexDigit (c.toNat % 16)) = some c := by
  have code : ((c.toNat / 4096 % 16 * 16 + c.toNat / 256 % 16) * 16 + c.toNat / 16 % 16) * 16 + c.toNat % 16 =
      c.toNat := by omega
  have digit (n : Nat) : Json.hexValue? (hexDigit (n % 16)) = some (n % 16) :=
    hexValue?_hexDigit (Nat.mod_lt n (by decide))
  have valid : c.toNat.isValidChar := .inl (by omega)
  simp [escapedByCode?, digit, code, valid, Char.ofNat_toNat, stands]

theorem readCharacters?_plain {c : Char} (stands : breaksConstant c = false) (rest : List Char) :
    readCharacters? (c :: rest) = (readCharacters? rest).map (Prod.map (c :: ·) id) := by
  have noQuote : c ≠ '"' := by
    rintro rfl
    cases stands
  have noEscape : c ≠ '\\' := by
    rintro rfl
    cases stands
  rw [readCharacters?.eq_5 c rest noQuote (fun _ _ _ _ _ same => absurd same noEscape)
    (fun _ _ same => absurd same noEscape), stands]
  rfl

theorem escape_eq (c : Char) :
    (∃ mark, mark ≠ 'u' ∧ escapedAs? mark = some c ∧ escape c = ['\\', mark]) ∨
      breaksConstant c = false ∧ (c.toNat < 0x20 ∧ escape c = escapeByCode c ∨ escape c = [c]) := by
  unfold escape
  split_ifs with quote backslash backspace tab lineFeed formFeed carriageReturn control
  · exact .inl ⟨'"', by decide, by rw [quote]; decide, rfl⟩
  · exact .inl ⟨'\\', by decide, by rw [backslash]; decide, rfl⟩
  · exact .inl ⟨'b', by decide, by rw [backspace]; decide, rfl⟩
  · exact .inl ⟨'t', by decide, by rw [tab]; decide, rfl⟩
  · exact .inl ⟨'n', by decide, by rw [lineFeed]; decide, rfl⟩
  · exact .inl ⟨'f', by decide, by rw [formFeed]; decide, rfl⟩
  · exact .inl ⟨'r', by decide, by rw [carriageReturn]; decide, rfl⟩
  · exact .inr ⟨by simp [breaksConstant, quote, backslash, lineFeed, carriageReturn], .inl ⟨control, rfl⟩⟩
  · exact .inr ⟨by simp [breaksConstant, quote, backslash, lineFeed, carriageReturn], .inr rfl⟩

theorem readCharacters?_escape_append (c : Char) (rest : List Char) :
    readCharacters? (escape c ++ rest) = (readCharacters? rest).map (Prod.map (c :: ·) id) := by
  rcases escape_eq c with ⟨mark, noCode, escaped, written⟩ | ⟨stands, ⟨control, written⟩ | written⟩
  · rw [written, List.cons_append, List.cons_append, List.nil_append,
      readCharacters?.eq_4 mark rest fun _ _ _ _ _ same _ => noCode same, escaped]
    rfl
  · rw [written]
    show readCharacters? ('\\' :: 'u' :: _ :: _ :: _ :: _ :: rest) = _
    rw [readCharacters?, escapedByCode?_of_control control stands]
    rfl
  · rw [written]
    exact readCharacters?_plain stands rest

theorem readCharacters?_escaped_append (text rest : List Char) :
    readCharacters? (text.flatMap escape ++ '"' :: rest) = some (text, rest) := by
  induction text with
  | nil => rfl
  | cons c text ih =>
    rw [List.flatMap_cons, List.append_assoc, readCharacters?_escape_append, ih]
    rfl

theorem readConstant?_quote_append (text : String) (rest : List Char) :
    readConstant? ((quote text).toList ++ rest) = some (text.toList, rest) := by
  rw [quote, String.toList_ofList, quoteWith, List.cons_append, List.append_assoc]
  exact readCharacters?_escaped_append text.toList rest

example : readConstant? "\"50%\\t\\u001f\\\\u\", x".toList = some ("50%\t\x1f\\u".toList, ", x".toList) := by
  decide

end PageObject.Text
