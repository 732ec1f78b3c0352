namespace PageObject.Text

/-- The number that decimal digits stand for. Behind a zero there are no more digits, since they would be octal. -/
def readDigits? (digits : List Char) : Option Nat :=
  if digits ≠ [] ∧ digits.all Char.isDigit ∧ (digits.head? = some '0' → digits = ['0']) then
    some (Nat.ofDigitChars 10 digits 0)
  else none

def readNumeral? : List Char → Option Int
  | '-' :: digits => (readDigits? digits).map fun value : Nat => -(value : Int)
  | digits => (readDigits? digits).map fun value : Nat => (value : Int)

theorem eq_zero_of_head?_toDigits {n : Nat} (zero : (Nat.toDigits 10 n).head? = some '0') : n = 0 := by
  induction n using Nat.strongRecOn with
  | ind n ih =>
    rw [Nat.toDigits_eq_if (by decide)] at zero
    split at zero
    · rename_i small
      have digits : ∀ n < 10, Nat.digitChar n = '0' → n = 0 := by decide
      exact digits n small (Option.some.inj zero)
    · rename_i large
      rw [List.head?_append, List.head?_eq_some_head Nat.toDigits_ne_nil, Option.some_or,
        ← List.head?_eq_some_head Nat.toDigits_ne_nil] at zero
      have := ih (n / 10) (by omega) zero
      omega

theorem all_isDigit_toDigits (n : Nat) : (Nat.toDigits 10 n).all Char.isDigit :=
  List.all_eq_true.mpr fun _ member => Nat.isDigit_of_mem_toDigits (by decide) (by decide) member

theorem readDigits?_toDigits (n : Nat) : readDigits? (Nat.toDigits 10 n) = some n := by
  have alone : (Nat.toDigits 10 n).head? = some '0' → Nat.toDigits 10 n = ['0'] := by
    intro zero
    rw [eq_zero_of_head?_toDigits zero, Nat.toDigits_zero]
  rw [readDigits?, if_pos ⟨Nat.toDigits_ne_nil, all_isDigit_toDigits n, alone⟩, Nat.ofDigitChars_ten_toDigits]

theorem readNumeral?_of_digits {digits : List Char} (unsigned : digits.all Char.isDigit) :
    readNumeral? digits = (readDigits? digits).map fun value : Nat => (value : Int) := by
  refine readNumeral?.eq_2 digits fun rest signed => ?_
  rw [signed] at unsigned
  cases unsigned

theorem readNumeral?_toString (n : Int) : readNumeral? (toString n).toList = some n := by
  rw [Int.toString_eq_repr, Int.repr_eq_if]
  split
  · rename_i positive
    rw [Nat.toList_repr, readNumeral?_of_digits (all_isDigit_toDigits _), readDigits?_toDigits, Option.map_some,
      Int.toNat_of_nonneg positive]
  · rename_i negative
    have written : ("-" ++ (-n).toNat.repr).toList = '-' :: Nat.toDigits 10 (-n).toNat := by
      rw [String.toList_append, Nat.toList_repr]
      rfl
    rw [written, readNumeral?, readDigits?_toDigits, Option.map_some, Int.toNat_of_nonneg (by omega), Int.neg_neg]

example : readNumeral? "-2147483648".toList = some (-2147483648) ∧ readNumeral? "007".toList = none := by decide

end PageObject.Text
