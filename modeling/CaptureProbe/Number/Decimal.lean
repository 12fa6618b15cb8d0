import CaptureProbe.Number.Basic

/-!
Decimals and the correctly rounded step from a decimal to a number: the nearest magnitude, a half
going to the even pattern. Beyond the largest finite magnitude the pattern is infinity's.
-/

namespace CaptureProbe

structure Decimal where
  digits : Nat
  exponent : Int
  deriving DecidableEq, Repr

def decimalLength (n : Nat) : Nat := (Nat.toDigits 10 n).length

/-- The integer nearest to `num / den`, a half going to the even neighbour. -/
def roundHalfEven (num den : Nat) : Nat :=
  let quotient := num / den
  let rest := num % den
  if 2 * rest < den then quotient
  else if den < 2 * rest then quotient + 1
  else if quotient % 2 = 0 then quotient
  else quotient + 1

/-- The magnitude pattern nearest to `num / den`. The scale is the least one that leaves at most
fifty-three bits; a significand that rounds up to fifty-four bits carries into the exponent. -/
def nearestPattern (num den : Nat) : Nat :=
  let scale := (num <<< 1074 / den).log2 - 52
  min Number.infinityPattern (scale * hiddenBit + roundHalfEven (num <<< 1074) (den <<< scale))

namespace Decimal

def num (d : Decimal) : Nat := d.digits * Nat.pow 10 d.exponent.toNat

def den (d : Decimal) : Nat := Nat.pow 10 (-d.exponent).toNat

def order (d : Decimal) : Int := decimalLength d.digits + d.exponent

/-- The pattern of the nearest magnitude. Decimals far beyond either end of the range are decided by
their order alone, so an exponent of any size costs nothing. -/
def pattern (d : Decimal) : Nat :=
  if d.digits = 0 then 0
  else if 310 < d.order then Number.infinityPattern
  else if d.order < -330 then 0
  else nearestPattern d.num d.den

theorem pattern_lt (d : Decimal) : d.pattern < signBit := by
  have bound := Number.infinityPattern_lt
  have inside : nearestPattern d.num d.den ≤ Number.infinityPattern := Nat.min_le_left _ _
  unfold pattern
  split
  · decide
  · split
    · exact bound
    · split
      · decide
      · exact Nat.lt_of_le_of_lt inside bound

def toNumber (negative : Bool) (d : Decimal) : Number := ⟨negative, d.pattern, d.pattern_lt⟩

def stripZeros (d : Decimal) : Decimal :=
  if d.digits ≠ 0 ∧ d.digits % 10 = 0 then stripZeros ⟨d.digits / 10, d.exponent + 1⟩ else d
termination_by d.digits
decreasing_by omega

end Decimal

def Number.ofInt (n : Int) : Number := Decimal.toNumber (decide (n < 0)) ⟨n.natAbs, 0⟩

end CaptureProbe
