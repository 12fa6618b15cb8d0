import Mathlib.Algebra.Group.Nat.Defs
import CaptureProbe.Number.Shortest

/-!
The shortest decimal of a finite number reads back as that number. A decimal that the search finds was
tested with the reader. When the search finds none every digit is given, and a decimal that is exactly
a number of units reads as the pattern of those units, since nothing is left to round.
-/

namespace CaptureProbe

theorem lt_decimalLength {n k : Nat} (large : 10 ^ k ≤ n) : k < decimalLength n := by
  cases k with
  | zero => exact Nat.length_toDigits_pos
  | succ k =>
      rw [decimalLength, ← Nat.not_le, Nat.length_toDigits_le_iff (by decide) (Nat.succ_pos k)]
      exact Nat.not_lt.mpr large

theorem decimalLength_le {n k : Nat} (positive : 0 < k) (small : n < 10 ^ k) :
    decimalLength n ≤ k :=
  (Nat.length_toDigits_le_iff (by decide) positive).mpr small

theorem fives_pos (count : Nat) : 0 < Nat.pow 5 count := Nat.pow_pos (by decide)

-- five and two make ten, so fives that are shifted become tens
theorem fives_shifted (units count : Nat) :
    (units * Nat.pow 5 count) <<< count = units * Nat.pow 10 count := by
  have tens : 5 ^ count * 2 ^ count = 10 ^ count := (Nat.mul_pow 5 2 count).symm
  rw [Nat.shiftLeft_eq, Nat.mul_assoc]
  exact congrArg (units * ·) tens

theorem roundHalfEven_exact (quotient : Nat) {den : Nat} (positive : 0 < den) :
    roundHalfEven (quotient * den) den = quotient := by
  simp [roundHalfEven, Nat.mul_div_cancel _ positive, positive]

namespace Number

variable (x : Number)

def IsFinite : Prop := x.magnitude < infinityPattern

theorem fraction_lt : x.fraction < hiddenBit := Nat.mod_lt _ (by decide)

/-- The significand carries its leading bit into the exponent field. -/
theorem scale_add_significand : x.scale * hiddenBit + x.significand = x.magnitude := by
  have parts : hiddenBit * x.exponentField + x.fraction = x.magnitude := Nat.div_add_mod _ _
  unfold significand scale
  split
  · rename_i subnormal
    rw [subnormal] at parts ⊢
    omega
  · rename_i normal
    obtain ⟨before, field⟩ := Nat.exists_eq_succ_of_ne_zero normal
    rw [field] at parts ⊢
    simp only [Nat.succ_eq_add_one, Nat.add_sub_cancel, Nat.mul_add, Nat.mul_one] at parts ⊢
    rw [Nat.mul_comm]
    omega

theorem significand_lt : x.significand < 2 ^ 53 := by
  have small := x.fraction_lt
  have bit : hiddenBit = 2 ^ 52 := by decide
  unfold significand
  split <;> omega

theorem units_eq : x.units = x.significand * 2 ^ x.scale := Nat.shiftLeft_eq _ _

/-- The scale is the least one that leaves at most fifty-three bits. -/
theorem log2_units : x.units.log2 - 52 = x.scale := by
  have bit : hiddenBit = 2 ^ 52 := by decide
  have small := x.fraction_lt
  by_cases subnormal : x.exponentField = 0
  · have field : x.scale = 0 := by rw [scale, subnormal]
    have few : x.units < 2 ^ 52 := by
      rw [units_eq, field, significand, if_pos subnormal]
      omega
    by_cases zero : x.units = 0
    · rw [zero, field]
      rfl
    · have short := (Nat.log2_lt zero).mpr few
      omega
  · have leading : 2 ^ 52 ≤ x.significand := by
      rw [significand, if_neg subnormal, bit]
      exact Nat.le_add_right _ _
    have lower : 2 ^ (52 + x.scale) ≤ x.units := by
      rw [units_eq, Nat.pow_add]
      exact Nat.mul_le_mul_right _ leading
    have upper : x.units < 2 ^ (52 + x.scale + 1) := by
      rw [units_eq, Nat.add_right_comm, Nat.pow_add]
      exact Nat.mul_lt_mul_of_pos_right x.significand_lt (Nat.two_pow_pos _)
    have some_ : x.units ≠ 0 := Nat.ne_of_gt (Nat.lt_of_lt_of_le (Nat.two_pow_pos _) lower)
    rw [(Nat.log2_eq_iff some_).mpr ⟨lower, upper⟩, Nat.add_sub_cancel_left]

theorem nearestPattern_exact {x : Number} (finite : x.IsFinite) {num den : Nat} (positive : 0 < den)
    (exact_ : num <<< 1074 = x.units * den) : nearestPattern num den = x.magnitude := by
  have scaled : num <<< 1074 = x.significand * (den <<< x.scale) := by
    rw [exact_, units_eq, Nat.shiftLeft_eq]
    ac_rfl
  have room : 0 < den <<< x.scale := by
    rw [Nat.shiftLeft_eq]
    exact Nat.mul_pos positive (Nat.two_pow_pos _)
  have quotient : num <<< 1074 / den = x.units := by rw [exact_, Nat.mul_div_cancel _ positive]
  simp only [nearestPattern, quotient, log2_units]
  rw [scaled, roundHalfEven_exact _ room, scale_add_significand]
  exact Nat.min_eq_right (Nat.le_of_lt finite)

theorem units_pos {x : Number} (nonzero : x.isZero = false) : 0 < x.units := by
  have whole := x.scale_add_significand
  have some_ : x.magnitude ≠ 0 := by simpa [isZero] using nonzero
  rw [units_eq]
  refine Nat.mul_pos (Nat.pos_of_ne_zero ?_) (Nat.two_pow_pos _)
  intro zero
  -- only a subnormal number can lack a leading bit, and its scale is zero
  have subnormal : x.exponentField = 0 := by
    by_cases field : x.exponentField = 0
    · exact field
    · rw [significand, if_neg field] at zero
      exact absurd (Nat.add_eq_zero_iff.mp zero).1 (by decide)
  rw [zero, scale, subnormal] at whole
  omega

theorem units_lt {bound : Nat} (exponent : x.scale ≤ bound) : x.units < 2 ^ 53 * 2 ^ bound := by
  have wide := Nat.pow_le_pow_right (by decide : 0 < 2) exponent
  rw [units_eq]
  calc x.significand * 2 ^ x.scale < 2 ^ 53 * 2 ^ x.scale :=
        Nat.mul_lt_mul_of_pos_right x.significand_lt (Nat.two_pow_pos _)
    _ ≤ 2 ^ 53 * 2 ^ bound := Nat.mul_le_mul_left _ wide

theorem scale_le {x : Number} (finite : x.IsFinite) : x.scale ≤ 2045 := by
  have field : x.exponentField < 2047 := (Nat.div_lt_iff_lt_mul (by decide)).mpr finite
  rw [scale]
  omega

theorem order_bounds {x : Number} (finite : x.IsFinite) (nonzero : x.isZero = false) {fives : Nat}
    (smallest : 10 ^ 743 ≤ fives) (largest : 2 ^ 53 * 2 ^ 2045 * fives ≤ 10 ^ 1384) :
    -330 ≤ (Decimal.mk (x.units * fives) (-1074)).order ∧
      (Decimal.mk (x.units * fives) (-1074)).order ≤ 310 := by
  have few := units_pos nonzero
  have positive : 0 < fives := Nat.lt_of_lt_of_le (Nat.pow_pos (by decide)) smallest
  have least := lt_decimalLength (Nat.le_trans smallest (Nat.le_mul_of_pos_left fives few))
  have most := decimalLength_le (by decide)
    (Nat.lt_of_lt_of_le (Nat.mul_lt_mul_of_pos_right (x.units_lt (scale_le finite)) positive) largest)
  simp only [Decimal.order]
  omega

/-- No finite number is so large or so small that its decimal order alone decides the pattern. -/
theorem order_exactDecimal {x : Number} (finite : x.IsFinite) (nonzero : x.isZero = false) :
    -330 ≤ x.exactDecimal.order ∧ x.exactDecimal.order ≤ 310 :=
  order_bounds finite nonzero (by decide +kernel) (by decide +kernel)

theorem digits_exactDecimal {x : Number} (nonzero : x.isZero = false) :
    x.exactDecimal.digits ≠ 0 :=
  Nat.ne_of_gt (Nat.mul_pos (units_pos nonzero) (fives_pos 1074))

theorem pattern_exactDecimal {x : Number} (finite : x.IsFinite) (nonzero : x.isZero = false) :
    x.exactDecimal.pattern = x.magnitude := by
  obtain ⟨lower, upper⟩ := order_exactDecimal finite nonzero
  rw [Decimal.pattern, if_neg (digits_exactDecimal nonzero), if_neg (Int.not_lt.mpr upper),
    if_neg (Int.not_lt.mpr lower)]
  apply nearestPattern_exact finite (Nat.pow_pos (by decide))
  have whole : x.exactDecimal.num = x.exactDecimal.digits := Nat.mul_one _
  rw [whole]
  exact fives_shifted x.units 1074

theorem pattern_shortest {x : Number} (finite : x.IsFinite) : x.shortest.pattern = x.magnitude := by
  unfold shortest
  split
  · rename_i zero
    have none_ : x.magnitude = 0 := by simpa [isZero] using zero
    rw [none_]
    rfl
  · rename_i nonzero
    dsimp only
    cases found : (List.range' 1 17).findSome? fun (count : Nat) =>
        x.onGrid (decimalOrder x.units unitsInOne - count) with
    | none => exact pattern_exactDecimal finite (by simpa using nonzero)
    | some d =>
        obtain ⟨count, -, grid⟩ := List.exists_of_findSome?_eq_some found
        have tested : x.readsBack d = true := List.find?_some grid
        simpa [readsBack] using tested

end Number
end CaptureProbe
