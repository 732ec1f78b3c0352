import PageObject.Text.UppercaseTable

namespace PageObject.Text

def charactersOf (codes : List Nat) : List Char :=
  codes.filterMap fun code => if code.isValidChar then some (Char.ofNat code) else none

def uppercase (c : Char) : List Char :=
  if c.toNat < 128 then [c.toUpper]
  else match uppercaseExpansions.lookup c.toNat with
    | some codes => charactersOf codes
    | none =>
      match uppercaseRuns.find? (·.covers c.toNat) with
      | some run => charactersOf [((c.toNat : Int) + run.offset).toNat]
      | none => [c]

def capitalize (name : String) : String :=
  match name.toList with
  | [] => ""
  | first :: rest => String.ofList (uppercase first ++ rest)

theorem uppercase_of_ascii {c : Char} (h : c.toNat < 128) : uppercase c = [c.toUpper] := by
  simp [uppercase, h]

end PageObject.Text
