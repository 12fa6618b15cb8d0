import Mathlib.Data.List.TakeWhile
import CaptureProbe.Number.Layout
import CaptureProbe.Number.Numeral
import CaptureProbe.Proofs.ShortestDecimal

/-!
Reading the printed form of a number. Positional notation may write a decimal with other digits and
another exponent than it has, as zeros are put behind an integer, but the decimal that is read has the
same pattern.
-/

namespace CaptureProbe

namespace Numeral

def AllDigits (cs : List Char) : Prop := ∀ c ∈ cs, c.isDigit = true

theorem allDigits_toDigits (n : Nat) : AllDigits (Nat.toDigits 10 n) :=
  fun _ member => Nat.isDigit_of_mem_toDigits (by decide) (by decide) member

theorem allDigits_zeros (count : Nat) : AllDigits (List.replicate count '0') := by
  intro c member
  rw [(List.mem_replicate.mp member).2]
  rfl

theorem AllDigits.append {first second : List Char} (left : AllDigits first)
    (right : AllDigits second) : AllDigits (first ++ second) := by
  intro c member
  rcases List.mem_append.mp member with before | after
  · exact left c before
  · exact right c after

theorem digitsValue_toDigits (n : Nat) : digitsValue (Nat.toDigits 10 n) = n :=
  Nat.ofDigitChars_ten_toDigits

theorem digitsValue_zeros_append (count : Nat) (cs : List Char) :
    digitsValue (List.replicate count '0' ++ cs) = digitsValue cs := by
  rw [digitsValue, Nat.ofDigitChars_append, Nat.ofDigitChars_replicate_zero, Nat.mul_zero, digitsValue]

theorem digitsValue_append_zeros (cs : List Char) (count : Nat) :
    digitsValue (cs ++ List.replicate count '0') = digitsValue cs * 10 ^ count := by
  rw [digitsValue, Nat.ofDigitChars_append, Nat.ofDigitChars_replicate_zero, Nat.mul_comm, digitsValue]

theorem decimal?_whole {cs : List Char} (digits : AllDigits cs) (some_ : cs ≠ []) :
    decimal? cs = some ⟨digitsValue cs, 0⟩ := by
  have taken : cs.takeWhile Char.isDigit = cs := List.takeWhile_eq_self_iff.mpr digits
  have left : cs.dropWhile Char.isDigit = [] := List.dropWhile_eq_nil_iff.mpr digits
  simp [decimal?, taken, left, splitFraction, exponent?, some_]

theorem decimal?_fraction {whole fraction : List Char} (first : AllDigits whole)
    (second : AllDigits fraction) (some_ : whole ≠ []) :
    decimal? (whole ++ '.' :: fraction) =
      some ⟨digitsValue (whole ++ fraction), -(fraction.length : Int)⟩ := by
  have taken : (whole ++ '.' :: fraction).takeWhile Char.isDigit = whole := by
    rw [List.takeWhile_append_of_pos first]
    simp
  have left : (whole ++ '.' :: fraction).dropWhile Char.isDigit = '.' :: fraction := by
    rw [List.dropWhile_append_of_pos first]
    simp
  have tail : fraction.takeWhile Char.isDigit = fraction := List.takeWhile_eq_self_iff.mpr second
  have rest : fraction.dropWhile Char.isDigit = [] := List.dropWhile_eq_nil_iff.mpr second
  simp [decimal?, taken, left, splitFraction, tail, rest, exponent?, some_]

theorem decimal?_inside {text : List Char} (digits : AllDigits text) {places : Nat}
    (inside : places < text.length) :
    decimal? (text.take (text.length - places) ++ '.' :: text.drop (text.length - places)) =
      some ⟨digitsValue text, -(places : Int)⟩ := by
  have before : AllDigits (text.take (text.length - places)) :=
    fun c member => digits c (List.mem_of_mem_take member)
  have after : AllDigits (text.drop (text.length - places)) :=
    fun c member => digits c (List.mem_of_mem_drop member)
  have length : (text.drop (text.length - places)).length = places := by
    rw [List.length_drop]
    omega
  have some_ : text.take (text.length - places) ≠ [] := by
    rw [← List.length_pos_iff, List.length_take]
    omega
  rw [decimal?_fraction before after some_, List.take_append_drop, length]

theorem decimal?_behind {text : List Char} (digits : AllDigits text) {places : Nat}
    (behind : text.length ≤ places) :
    decimal? ('0' :: '.' :: (List.replicate (places - text.length) '0' ++ text)) =
      some ⟨digitsValue text, -(places : Int)⟩ := by
  have after := (allDigits_zeros (places - text.length)).append digits
  have length : (List.replicate (places - text.length) '0' ++ text).length = places := by
    rw [List.length_append, List.length_replicate]
    omega
  have zero := digitsValue_zeros_append 1 (List.replicate (places - text.length) '0' ++ text)
  have read := decimal?_fraction (allDigits_zeros 1) after (List.cons_ne_nil _ _)
  rw [zero, digitsValue_zeros_append, length] at read
  exact read

end Numeral

namespace Decimal

theorem decimalLength_mul_pow {n : Nat} (positive : 0 < n) (count : Nat) :
    decimalLength (n * 10 ^ count) = decimalLength n + count := by
  induction count with
  | zero => simp
  | succ count ih =>
      have more : 0 < n * 10 ^ count := Nat.mul_pos positive (Nat.pow_pos (by decide))
      have shifted : n * 10 ^ (count + 1) = n * 10 ^ count * 10 := by rw [Nat.pow_succ, Nat.mul_assoc]
      rw [shifted, decimalLength, Nat.toDigits_of_base_le (by decide) (by omega),
        Nat.mul_div_cancel _ (by decide), List.length_append, ← decimalLength, ih]
      rfl

theorem pattern_integer (digits count : Nat) :
    pattern ⟨digits * 10 ^ count, 0⟩ = pattern ⟨digits, count⟩ := by
  by_cases zero : digits = 0
  · simp [pattern, zero]
  · have positive := Nat.pos_of_ne_zero zero
    have order : order ⟨digits * 10 ^ count, 0⟩ = order ⟨digits, count⟩ := by
      simp [Decimal.order, decimalLength_mul_pow positive]
    have num : num ⟨digits * 10 ^ count, 0⟩ = num ⟨digits, count⟩ := by
      simp [Decimal.num]
    have den : den ⟨digits * 10 ^ count, 0⟩ = den ⟨digits, count⟩ := by
      simp [Decimal.den]
    have some_ : digits * 10 ^ count ≠ 0 :=
      Nat.ne_of_gt (Nat.mul_pos positive (Nat.pow_pos (by decide)))
    simp only [pattern, order, num, den, if_neg zero, if_neg some_]

theorem allDigits_digitText (d : Decimal) : Numeral.AllDigits d.digitText :=
  Numeral.allDigits_toDigits d.digits

theorem digitText_ne_nil (d : Decimal) : d.digitText ≠ [] := Nat.toDigits_ne_nil

/-- Positional notation reads as a decimal with the same pattern. -/
theorem decimal?_positional (d : Decimal) :
    ∃ read, Numeral.decimal? d.positional = some read ∧ read.pattern = d.pattern := by
  have digits := d.allDigits_digitText
  have value : Numeral.digitsValue d.digitText = d.digits := Numeral.digitsValue_toDigits d.digits
  unfold positional
  dsimp only
  split
  · -- an integer is read with its zeros among the digits
    have exponent : (d.exponent.toNat : Int) = d.exponent := by omega
    have some_ : d.digitText ++ List.replicate d.exponent.toNat '0' ≠ [] :=
      List.append_ne_nil_of_left_ne_nil d.digitText_ne_nil _
    refine ⟨⟨d.digits * 10 ^ d.exponent.toNat, 0⟩, ?_, ?_⟩
    · rw [Numeral.decimal?_whole (digits.append (Numeral.allDigits_zeros _)) some_,
        Numeral.digitsValue_append_zeros, value]
    · rw [pattern_integer, exponent]
  · -- with a fraction the decimal itself is read, wherever the point stands
    have exponent : -((-d.exponent).toNat : Int) = d.exponent := by omega
    refine ⟨d, ?_, rfl⟩
    split
    · rename_i inside
      rw [Numeral.decimal?_inside digits inside, value, exponent]
    · rename_i behind
      rw [Numeral.decimal?_behind digits (Nat.not_lt.mp behind), value, exponent]

theorem positional_begins (d : Decimal) :
    ∃ c rest, d.positional = c :: rest ∧ c.isDigit = true := by
  obtain ⟨c, rest, text⟩ := List.exists_cons_of_ne_nil d.digitText_ne_nil
  have digit : c.isDigit = true := d.allDigits_digitText c (by rw [text]; exact List.mem_cons_self)
  unfold positional
  dsimp only
  split
  · exact ⟨c, _, by rw [text]; rfl, digit⟩
  · split
    · rename_i inside
      obtain ⟨more, length⟩ := Nat.exists_eq_succ_of_ne_zero (Nat.sub_ne_zero_of_lt inside)
      exact ⟨c, _, by rw [length, text]; rfl, digit⟩
    · exact ⟨'0', _, rfl, rfl⟩

end Decimal

namespace Numeral

theorem toLower_of_digit {c : Char} (digit : c.isDigit = true) : c.toLower = c := by
  have small := (Char.isDigit_iff_toNat.mp digit).2
  refine dif_neg ?_
  rintro ⟨large, -⟩
  have letter : 'A'.toNat ≤ c.toNat := large
  exact absurd (Nat.le_trans letter small) (by decide)

theorem digit_ne {c d : Char} (digit : c.isDigit = true) (other : d.isDigit = false) : c ≠ d := by
  rintro rfl
  rw [digit] at other
  cases other

theorem splitSign_digit {c : Char} (digit : c.isDigit = true) (rest : List Char) :
    splitSign (c :: rest) = (false, c :: rest) := by
  unfold splitSign
  split
  · rename_i same
    exact absurd (List.cons.inj same).1 (digit_ne digit rfl)
  · rename_i same
    exact absurd (List.cons.inj same).1 (digit_ne digit rfl)
  · rfl

-- The words for infinity and NaN begin with letters.
theorem read?_of_digit {c : Char} {rest cs : List Char} {negative : Bool} (digit : c.isDigit = true)
    (signed : splitSign cs = (negative, c :: rest)) :
    read? cs = (decimal? (c :: rest)).map (.decimal negative) := by
  have lower : lowercase (c :: rest) = c :: lowercase rest := by
    rw [lowercase, List.map_cons, toLower_of_digit digit, lowercase]
  have infinity : isInfinityWord (c :: rest) = false := by
    simp [isInfinityWord, lower, digit_ne digit (d := 'i') rfl]
  have nan : isNaNWord (c :: rest) = false := by
    simp [isNaNWord, lower, digit_ne digit (d := 'n') rfl]
  simp [read?, signed, infinity, nan]

end Numeral

namespace Number

theorem splitSign_sign (x : Number) {c : Char} (digit : c.isDigit = true) (rest : List Char) :
    Numeral.splitSign (x.sign ++ c :: rest) = (x.negative, c :: rest) := by
  unfold sign
  cases x.negative with
  | true => rfl
  | false => exact Numeral.splitSign_digit digit rest

theorem read?_positional {x : Number} (finite : x.IsFinite) :
    (Numeral.read? (x.sign ++ x.shortest.positional)).map Numeral.toNumber = some x := by
  obtain ⟨d, read, same⟩ := x.shortest.decimal?_positional
  obtain ⟨c, rest, text, digit⟩ := x.shortest.positional_begins
  rw [text] at read ⊢
  rw [Numeral.read?_of_digit digit (x.splitSign_sign digit rest), read]
  have pattern : d.pattern = x.magnitude := same.trans (pattern_shortest finite)
  simp only [Option.map_some, Numeral.toNumber, Decimal.toNumber, pattern]

end Number
end CaptureProbe
