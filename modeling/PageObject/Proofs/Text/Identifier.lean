import PageObject.Text.Identifier
import PageObject.Text.Uppercase

namespace PageObject.Text

theorem isLetter_iff (c : Char) :
    isLetter c = true ↔ (97 ≤ c.toNat ∧ c.toNat ≤ 122) ∨ (65 ≤ c.toNat ∧ c.toNat ≤ 90) := by
  simp only [isLetter, Bool.or_eq_true, Bool.and_eq_true, decide_eq_true_eq, Char.le_def,
    UInt32.le_iff_toNat_le]
  rfl

theorem of_ascii {p : Char → Prop} (each : ∀ code < 128, p (Char.ofNat code)) {c : Char} (ascii : c.toNat < 128) :
    p c := by
  have here := each c.toNat ascii
  rwa [Char.ofNat_toNat] at here

theorem isLetter_toUpper {c : Char} (letter : isLetter c) : isLetter c.toUpper := by
  have bounds := (isLetter_iff c).mp letter
  exact of_ascii (p := fun c => isLetter c → isLetter c.toUpper) (by decide) (by omega) letter

theorem toNat_lt_of_isWordChar {c : Char} (word : isWordChar c) : c.toNat < 128 := by
  simp only [isWordChar, Bool.or_eq_true, isLetter_iff, Bool.and_eq_true, decide_eq_true_eq, beq_iff_eq, Char.le_def,
    UInt32.le_iff_toNat_le] at word
  rcases word with (letter | ⟨-, digit⟩) | rfl
  · omega
  · exact Nat.lt_of_le_of_lt digit (by decide)
  · decide

theorem isWordChar_toLower {c : Char} (word : isWordChar c) : isWordChar c.toLower :=
  of_ascii (p := fun c => isWordChar c → isWordChar c.toLower) (by decide) (toNat_lt_of_isWordChar word) word

theorem isIdentifier_iff {name : String} :
    isIdentifier name ↔ ∃ first rest, name.toList = first :: rest ∧ isLetter first ∧ rest.all isWordChar := by
  unfold isIdentifier
  cases name.toList with
  | nil => simp [isIdentifierText]
  | cons first rest =>
    simp only [isIdentifierText, Bool.and_eq_true]
    constructor
    · intro h
      exact ⟨first, rest, rfl, h⟩
    · intro h
      rcases h with ⟨other, others, same, letter, word⟩
      cases same
      exact ⟨letter, word⟩

theorem all_isWordChar_of_isIdentifier {name : String} (identifier : isIdentifier name) :
    name.toList.all isWordChar := by
  rcases isIdentifier_iff.mp identifier with ⟨first, rest, chars, letter, word⟩
  rw [chars]
  simp [isWordChar, letter, word]

theorem isIdentifier_append {name other : String} (identifier : isIdentifier name)
    (word : other.toList.all isWordChar) : isIdentifier (name ++ other) := by
  rcases isIdentifier_iff.mp identifier with ⟨first, rest, chars, letter, behind⟩
  refine isIdentifier_iff.mpr ⟨first, rest ++ other.toList, ?_, letter, ?_⟩
  · rw [String.toList_append, chars, List.cons_append]
  · rw [List.all_append, behind, word]
    rfl

theorem isIdentifier_capitalize {name : String} (identifier : isIdentifier name) :
    isIdentifier (capitalize name) := by
  rcases isIdentifier_iff.mp identifier with ⟨first, rest, chars, letter, word⟩
  have bounds := (isLetter_iff first).mp letter
  refine isIdentifier_iff.mpr ⟨first.toUpper, rest, ?_, isLetter_toUpper letter, word⟩
  unfold capitalize
  rw [chars]
  simp only
  rw [uppercase_of_ascii (by omega), String.toList_ofList]
  rfl

end PageObject.Text
