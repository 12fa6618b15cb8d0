import CaptureProbe.Proofs.NumeralText
import CaptureProbe.Value.Literal

/-!
Literals read back. The three layers of the reader (keywords, numerals, quoted texts) are told apart
by the first character, except that a minus sign may begin a keyword as well as a numeral.
-/

namespace CaptureProbe

namespace Number

theorem eq_infinity {x : Number} (infinite : x.isInfinite = true) : x = infinity x.negative := by
  obtain ⟨negative, magnitude, bounded⟩ := x
  have same : magnitude = infinityPattern := beq_iff_eq.mp infinite
  subst same
  rfl

theorem isFinite_of_not {x : Number} (number : x.isNaN ≠ true) (bounded : x.isInfinite ≠ true) :
    x.IsFinite := by
  have most : ¬infinityPattern < x.magnitude := fun more => number (decide_eq_true more)
  have other : x.magnitude ≠ infinityPattern := fun same => bounded (beq_iff_eq.mpr same)
  unfold IsFinite
  omega

theorem toBits_ofBits (bits : UInt64) : (ofBits bits).toBits = bits := by
  have small : bits.toNat < 2 * signBit := bits.toNat_lt
  have whole : (if signBit ≤ bits.toNat then signBit else 0) + bits.toNat % signBit = bits.toNat := by
    by_cases negative : signBit ≤ bits.toNat
    · rw [if_pos negative, Nat.mod_eq_sub_mod negative, Nat.mod_eq_of_lt (by omega)]
      omega
    · rw [if_neg negative, Nat.mod_eq_of_lt (by omega), Nat.zero_add]
  simp only [toBits, ofBits, decide_eq_true_eq, whole, UInt64.ofNat_toNat]

end Number

namespace Value

def IsWritable : Value → Prop
  | .object _ => False
  | .function _ => False
  | _ => True

/-- The same value, where one NaN is as good as another. -/
def Agrees : Value → Value → Prop
  | .number x, .number y => x = y ∨ (x.isNaN = true ∧ y.isNaN = true)
  | v, w => v = w

theorem Agrees.refl (v : Value) : v.Agrees v := by
  cases v with
  | number x => exact Or.inl rfl
  | _ => rfl

theorem Agrees.eq_text {s : String} {v : Value} (agrees : (Value.text s).Agrees v) :
    v = .text s := by
  cases v <;> exact Eq.symm agrees

def IsNaN : Value → Prop
  | .number x => x.isNaN = true
  | _ => False

theorem Agrees.eq {v w : Value} (agrees : v.Agrees w) (number : ¬w.IsNaN) : v = w := by
  cases v with
  | number x =>
      cases w with
      | number y =>
          rcases agrees with rfl | ⟨-, nan⟩
          · rfl
          · exact absurd nan number
      | _ => exact agrees
  | _ => exact agrees

theorem numeric?_signed {x : Number} (finite : x.IsFinite) :
    numeric? (x.sign ++ x.shortest.positional) = some x := by
  have read := Number.read?_positional finite
  obtain ⟨c, rest, text, digit⟩ := x.shortest.positional_begins
  rw [text] at read ⊢
  unfold Number.sign at read ⊢
  cases negative : x.negative with
  | true =>
      rw [negative] at read
      exact read
  | false =>
      rw [negative] at read
      have begins : beginsNumber c = true := by simp [beginsNumber, digit]
      exact (if_pos begins).trans read

-- Of the keywords only the negative infinity begins as a numeral may, and a letter follows there.
theorem keyword?_signed (x : Number) :
    keyword? (String.ofList (x.sign ++ x.shortest.positional)) = none := by
  obtain ⟨c, rest, text, digit⟩ := x.shortest.positional_begins
  have letter (d : Char) (other : d.isDigit = false) : c ≠ d := Numeral.digit_ne digit other
  rw [text]
  unfold Number.sign
  cases x.negative <;>
    simp [keyword?, ← String.toList_inj, letter 'u' rfl, letter 'n' rfl, letter 't' rfl,
      letter 'f' rfl, letter 'N' rfl, letter 'I' rfl, letter '-' rfl]

theorem ofLiteral_display (x : Number) : (ofLiteral x.display).Agrees (.number x) := by
  unfold Number.display
  by_cases nan : x.isNaN = true
  · rw [if_pos nan]
    exact Or.inr ⟨by decide, nan⟩
  · rw [if_neg nan]
    by_cases infinite : x.isInfinite = true
    · have word : ofLiteral (if x.negative then "-Infinity" else "Infinity") =
          .number (Number.infinity x.negative) := by
        cases x.negative <;> decide
      rw [if_pos infinite, word, ← Number.eq_infinity infinite]
      exact Agrees.refl _
    · rw [if_neg infinite]
      have read := numeric?_signed (Number.isFinite_of_not nan infinite)
      simp only [ofLiteral, keyword?_signed, String.toList_ofList, read]
      exact Agrees.refl _

theorem keyword?_quoted (s : String) : keyword? ("\"" ++ s ++ "\"") = none := by
  simp [keyword?, ← String.toList_inj]

theorem ofLiteral_quoted (s : String) : ofLiteral ("\"" ++ s ++ "\"") = .text s := by
  have text : ("\"" ++ s ++ "\"").toList = '"' :: (s.toList ++ ['"']) := by simp
  have other : numeric? ('"' :: (s.toList ++ ['"'])) = none := rfl
  have inner : unquote ('"' :: (s.toList ++ ['"'])) = s.toList := by simp [unquote]
  simp only [ofLiteral, keyword?_quoted, text, other, inner, String.ofList_toList]

theorem ofLiteral_literal {v : Value} (writable : v.IsWritable) : (ofLiteral v.literal).Agrees v := by
  cases v with
  | undefined => rfl
  | null => rfl
  | bool b => cases b <;> rfl
  | number x =>
      have same : literal (.number x) = x.display := by simp [literal, display, pieces, String.join]
      rw [same]
      exact ofLiteral_display x
  | text s =>
      rw [literal, ofLiteral_quoted]
      rfl
  | object ref => exact writable.elim
  | function ref => exact writable.elim

/-- Every value but references and NaNs is read back from its literal, and so is every 64-bit word that
is no NaN, bit for bit. -/
theorem literals_read_back :
    (∀ v : Value, v.IsWritable → ¬v.IsNaN → ofLiteral v.literal = v) ∧
      ∀ bits : UInt64, (Number.ofBits bits).isNaN = false →
        ∃ x, ofLiteral (Value.number (Number.ofBits bits)).literal = .number x ∧ x.toBits = bits := by
  have values : ∀ v : Value, v.IsWritable → ¬v.IsNaN → ofLiteral v.literal = v := by
    intro v writable number
    exact (ofLiteral_literal writable).eq number
  refine ⟨values, ?_⟩
  intro bits number
  refine ⟨Number.ofBits bits, values _ trivial ?_, Number.toBits_ofBits bits⟩
  rw [IsNaN, number]
  decide

/-- A text that begins with a quote and goes on like a number, and the negative number next to zero. -/
theorem literals_read_back_confusable :
    ofLiteral (Value.text "\"-0").literal = .text "\"-0" ∧
      ∃ x, ofLiteral (Value.number (Number.ofBits 0x8000000000000001)).literal = .number x ∧
        x.toBits = 0x8000000000000001 := by
  obtain ⟨values, words⟩ := literals_read_back
  exact ⟨values (.text "\"-0") trivial id, words 0x8000000000000001 (by decide)⟩

theorem literal_ne_separator {v : Value} (writable : v.IsWritable) : v.literal ≠ "--" := by
  intro same
  -- two dashes read as a text, and a text is written with quotes
  have read := ofLiteral_literal writable
  rw [same] at read
  have text : v = .text "--" := Agrees.eq_text read
  rw [text] at same
  exact absurd same (by decide)

end Value
end CaptureProbe
