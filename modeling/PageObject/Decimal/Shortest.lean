import PageObject.Decimal.Binary64

namespace PageObject.Decimal

structure DecimalForm where
  digits : Nat
  exponent : Int
deriving DecidableEq, Repr

def digitCount (n : Nat) : Nat := (Nat.toDigits 10 n).length

def DecimalForm.stripZeros (x : DecimalForm) : DecimalForm :=
  if h : x.digits ≠ 0 ∧ x.digits % 10 = 0 then stripZeros ⟨x.digits / 10, x.exponent + 1⟩ else x
termination_by x.digits
decreasing_by omega

namespace Binary64

def leadingPower (x : Binary64) : Int :=
  let (num, den) := x.toRatio
  if den ≤ num then (digitCount (num / den) : Int) - 1 else -(digitCount ((den - 1) / num) : Int)

def compareDecimal (digits : Nat) (power : Int) (quarters : Nat) (exponent : Int) : Ordering :=
  let e := exponent - 2
  compareOfLessAndEq (digits * Nat.pow 10 power.toNat * Nat.pow 2 (-e).toNat)
    (quarters * Nat.pow 10 (-power).toNat * Nat.pow 2 e.toNat)

/-- Whether a decimal rounds to the number. The ends of the interval belong to an even significand,
and below a power of two the neighbours lie closer. -/
def isReadFrom (x : Binary64) (digits : Nat) (power : Int) : Bool :=
  let quarters := 4 * x.significand
  let isPower := x.significand = significandLimit / 2 ∧ leastExponent < x.exponent
  let below := if isPower then 1 else 2
  let even := x.significand % 2 == 0
  let low := compareDecimal digits power (quarters - below) x.exponent
  let high := compareDecimal digits power (quarters + 2) x.exponent
  (low == .gt || (even && low == .eq)) && (high == .lt || (even && high == .eq))

def nearer (x : Binary64) (digits : Nat) (power : Int) : Nat :=
  match compareDecimal (2 * digits + 1) power (8 * x.significand) x.exponent with
  | .lt => digits + 1
  | .gt => digits
  | .eq => if digits % 2 = 0 then digits else digits + 1

def withDigits? (x : Binary64) (count : Nat) : Option DecimalForm :=
  let power := x.leadingPower - count + 1
  let (num, den) := x.toRatio
  let digits := (num * Nat.pow 10 (-power).toNat) / (den * Nat.pow 10 power.toNat)
  match x.isReadFrom digits power, x.isReadFrom (digits + 1) power with
  | true, true => some ⟨x.nearer digits power, power⟩
  | true, false => some ⟨digits, power⟩
  | false, true => some ⟨digits + 1, power⟩
  | false, false => none

/-- The shortest decimal that rounds to the number. Seventeen digits always do. -/
def shortest (x : Binary64) : DecimalForm :=
  if x.significand = 0 then ⟨0, 0⟩
  else
    match (List.range' 1 17).findSome? x.withDigits? with
    | some form => form.stripZeros
    | none => ⟨x.toRatio.1 / x.toRatio.2, 0⟩

end Binary64

def exponentText (exponent : Int) : String :=
  if exponent < 0 then s!"e-{exponent.natAbs}" else s!"e+{exponent.natAbs}"

/-- The text of a decimal. The point is written in place when it follows at most the sixteenth digit
and at most four zeros stand between it and the first digit; otherwise it follows the first digit
and an exponent is written. -/
def DecimalForm.text (x : DecimalForm) : String :=
  let digits := Nat.toDigits 10 x.digits
  let point : Int := digits.length + x.exponent
  if 0 ≤ x.exponent ∧ point ≤ 16 then
    String.ofList (digits ++ List.replicate x.exponent.toNat '0' ++ ['.', '0'])
  else if 0 < point ∧ point ≤ 16 then
    String.ofList (digits.take point.toNat ++ '.' :: digits.drop point.toNat)
  else if -5 < point ∧ point ≤ 0 then
    String.ofList ('0' :: '.' :: List.replicate (-point).toNat '0' ++ digits)
  else
    let fraction := digits.drop 1
    String.ofList (digits.take 1 ++ if fraction.isEmpty then [] else '.' :: fraction) ++
      exponentText (point - 1)

def Binary64.text (x : Binary64) : String := x.shortest.text

end PageObject.Decimal
