namespace PageObject.Decimal

/-- The number `significand * 2 ^ exponent`. The significand is below `significandLimit`, and it is
at least half of that unless the exponent is `leastExponent`. -/
structure Binary64 where
  significand : Nat
  exponent : Int
deriving DecidableEq, Repr

def roundDiv (num den : Nat) : Nat :=
  let quotient := num / den
  let twice := 2 * (num % den)
  if twice < den then quotient
  else if den < twice then quotient + 1
  else if quotient % 2 = 0 then quotient else quotient + 1

namespace Binary64

def significandLimit : Nat := Nat.pow 2 53

def leastExponent : Int := -1074

def greatestExponent : Int := 971

def zero : Binary64 := ⟨0, leastExponent⟩

def scaled (num den : Nat) (exponent : Int) : Nat × Nat :=
  if 0 ≤ exponent then (num, den * Nat.pow 2 exponent.toNat)
  else (num * Nat.pow 2 (-exponent).toNat, den)

def exponentOf (num den : Nat) : Int :=
  let guess : Int := (num.log2 : Int) - den.log2 - 53
  let (n, d) := scaled num den guess
  let exponent := if n / d < significandLimit then guess else guess + 1
  if exponent < leastExponent then leastExponent else exponent

/-- The number nearest to `num / den`, of two the one with an even significand. A quotient that
rounds beyond the largest number has none. -/
def ofRatio (num den : Nat) : Option Binary64 :=
  if num = 0 then some zero
  else
    let exponent := exponentOf num den
    let (n, d) := scaled num den exponent
    let significand := roundDiv n d
    let rounded : Binary64 :=
      if significand = significandLimit then ⟨significandLimit / 2, exponent + 1⟩
      else ⟨significand, exponent⟩
    if greatestExponent < rounded.exponent then none else some rounded

def toRatio (x : Binary64) : Nat × Nat := scaled x.significand 1 (-x.exponent)

def mul (x y : Binary64) : Option Binary64 :=
  ofRatio (x.toRatio.1 * y.toRatio.1) (x.toRatio.2 * y.toRatio.2)

def div (x y : Binary64) : Option Binary64 :=
  ofRatio (x.toRatio.1 * y.toRatio.2) (x.toRatio.2 * y.toRatio.1)

def powerOfTen (k : Nat) : Option Binary64 := ofRatio (Nat.pow 10 k) 1

/-- Divides by `10 ^ k`, in steps of at most `10 ^ 308`, each of them rounded. -/
def divPowerOfTen (x : Binary64) (k : Nat) : Option Binary64 :=
  if k ≤ 308 then do x.div (← powerOfTen k)
  else if x.significand = 0 then some x
  else do
    let y ← x.div (← powerOfTen 308)
    divPowerOfTen y (k - 308)
termination_by k
decreasing_by omega

/-- The number that a decimal significand and exponent are read as: the significand is rounded, and
then its product or quotient with the rounded power of ten. -/
def ofDecimal (significand : Nat) (exponent : Int) : Option Binary64 := do
  let x ← ofRatio significand 1
  if exponent < 0 then x.divPowerOfTen exponent.natAbs
  else if exponent ≤ 308 then x.mul (← powerOfTen exponent.toNat)
  else if x.significand = 0 then some x
  else none

end Binary64

end PageObject.Decimal
