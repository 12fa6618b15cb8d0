import Mathlib.Computability.RegularExpressions
import CaptureProbe.Proofs.UniqueReading

/-!
The grammar of numerals. The reader takes a numeral apart from the left and never goes back; the
grammar says by regular expressions which texts there are. The two agree because each part of a numeral
ends where no longer part could: digits before what is no digit, a sign before what is no sign.
-/

namespace CaptureProbe

namespace Grammar

open RegularExpression

def oneOf (cs : List Char) : RegularExpression Char := cs.foldr (fun c p => char c + p) 0

def optional (p : RegularExpression Char) : RegularExpression Char := 1 + p

def decimalDigits : List Char := ['0', '1', '2', '3', '4', '5', '6', '7', '8', '9']

def digit : RegularExpression Char := oneOf decimalDigits

def digits : RegularExpression Char := digit * star digit

def sign : RegularExpression Char := oneOf ['+', '-']

-- Digits on one side of the point may be missing, and with those behind it the point.
def significand : RegularExpression Char :=
  digits * optional (char '.' * star digit) + char '.' * digits

def exponent : RegularExpression Char := oneOf ['e', 'E'] * (optional sign * digits)

def unsigned : RegularExpression Char := significand * optional exponent

/-- With `D` for a digit, `[+-]?(D+(.D*)?|.D+)([eE][+-]?D+)?`. -/
def decimal : RegularExpression Char := optional sign * unsigned

-- in any letter case
def word (letters : List Char) : RegularExpression Char :=
  letters.foldr (fun c p => oneOf [c, c.toUpper] * p) 1

def words : RegularExpression Char :=
  word ['i', 'n', 'f'] + word ['i', 'n', 'f', 'i', 'n', 'i', 't', 'y'] + word ['n', 'a', 'n']

def signedWord : RegularExpression Char := sign * words

def numeral : RegularExpression Char := optional sign * (words + unsigned)

theorem mem_char {c : Char} {cs : List Char} : cs ∈ (char c).matches' ↔ cs = [c] := Iff.rfl

theorem mem_oneOf {letters cs : List Char} :
    cs ∈ (oneOf letters).matches' ↔ ∃ c ∈ letters, cs = [c] := by
  induction letters with
  | nil => simp [oneOf, Language.notMem_zero]
  | cons c rest ih =>
      have split : oneOf (c :: rest) = char c + oneOf rest := rfl
      rw [split, matches'_add, Language.mem_add, mem_char, ih]
      simp

theorem mem_oneOf_mul {letters cs : List Char} {p : RegularExpression Char} :
    cs ∈ (oneOf letters * p).matches' ↔ ∃ c ∈ letters, ∃ rest ∈ p.matches', cs = c :: rest := by
  rw [matches'_mul, Language.mem_mul]
  constructor
  · rintro ⟨front, one, rest, member, rfl⟩
    obtain ⟨c, known, rfl⟩ := mem_oneOf.mp one
    exact ⟨c, known, rest, member, rfl⟩
  · rintro ⟨c, known, rest, member, rfl⟩
    exact ⟨[c], mem_oneOf.mpr ⟨c, known, rfl⟩, rest, member, rfl⟩

theorem mem_optional {p : RegularExpression Char} {cs : List Char} :
    cs ∈ (optional p).matches' ↔ cs = [] ∨ cs ∈ p.matches' := Iff.rfl

theorem mem_star_oneOf {letters cs : List Char} :
    cs ∈ (star (oneOf letters)).matches' ↔ ∀ c ∈ cs, c ∈ letters := by
  rw [matches'_star, Language.mem_kstar]
  constructor
  · rintro ⟨pieces, rfl, each⟩ c member
    obtain ⟨piece, inside, part⟩ := List.mem_flatten.mp member
    obtain ⟨d, letter, rfl⟩ := mem_oneOf.mp (each piece inside)
    rw [List.mem_singleton.mp part]
    exact letter
  · intro each
    refine ⟨cs.map fun c => [c], (List.flatMap_singleton' cs).symm, ?_⟩
    intro piece member
    obtain ⟨c, inside, rfl⟩ := List.mem_map.mp member
    exact mem_oneOf.mpr ⟨c, each c inside, rfl⟩

theorem mem_decimalDigits {c : Char} : c ∈ decimalDigits ↔ c.isDigit = true := by
  constructor
  · intro member
    have each : ∀ c ∈ decimalDigits, c.isDigit = true := by simp [decimalDigits]
    exact each c member
  · intro digit
    obtain ⟨low, high⟩ := Char.isDigit_iff_toNat.mp digit
    have each : ∀ code ∈ List.range' 48 10, Char.ofNat code ∈ decimalDigits := by decide
    have found := each c.toNat (List.mem_range'_1.mpr ⟨low, Nat.lt_succ_of_le high⟩)
    rwa [Char.ofNat_toNat] at found

theorem mem_star_digit {cs : List Char} : cs ∈ (star digit).matches' ↔ Numeral.AllDigits cs := by
  rw [digit, mem_star_oneOf]
  simp only [mem_decimalDigits, Numeral.AllDigits]

theorem mem_digits {cs : List Char} :
    cs ∈ digits.matches' ↔ cs ≠ [] ∧ Numeral.AllDigits cs := by
  rw [digits, digit, mem_oneOf_mul]
  constructor
  · rintro ⟨c, known, rest, more, rfl⟩
    refine ⟨List.cons_ne_nil _ _, ?_⟩
    intro d member
    rcases List.mem_cons.mp member with rfl | later
    · exact mem_decimalDigits.mp known
    · exact mem_star_digit.mp more d later
  · rintro ⟨some_, all⟩
    obtain ⟨c, rest, rfl⟩ := List.exists_cons_of_ne_nil some_
    refine ⟨c, mem_decimalDigits.mpr (all c List.mem_cons_self), rest, mem_star_digit.mpr ?_, rfl⟩
    exact fun d member => all d (List.mem_cons_of_mem _ member)

-- A sign in front is the one that the reader splits off, where what follows cannot begin with another.
theorem mem_signed {p : RegularExpression Char}
    (free : ∀ cs ∈ p.matches', ∀ c ∈ cs.head?, c ≠ '+' ∧ c ≠ '-') {cs : List Char} :
    cs ∈ (optional sign * p).matches' ↔ (Numeral.splitSign cs).2 ∈ p.matches' := by
  rw [matches'_mul, Language.mem_mul]
  constructor
  · rintro ⟨front, signed, body, member, rfl⟩
    rcases mem_optional.mp signed with rfl | one
    · have none_ : Numeral.splitSign body = (false, body) := by
        unfold Numeral.splitSign
        split
        · exact absurd rfl (free _ member '-' rfl).2
        · exact absurd rfl (free _ member '+' rfl).1
        · rfl
      rw [List.nil_append, none_]
      exact member
    · obtain ⟨c, known, rfl⟩ := mem_oneOf.mp one
      rcases List.mem_pair.mp known with rfl | rfl
      · exact member
      · exact member
  · intro member
    unfold Numeral.splitSign at member
    split at member
    · exact ⟨['-'], mem_optional.mpr (Or.inr (mem_oneOf.mpr ⟨'-', by decide, rfl⟩)), _, member, rfl⟩
    · exact ⟨['+'], mem_optional.mpr (Or.inr (mem_oneOf.mpr ⟨'+', by decide, rfl⟩)), _, member, rfl⟩
    · exact ⟨[], mem_optional.mpr (Or.inl rfl), _, member, rfl⟩

theorem mem_significand {cs : List Char} :
    cs ∈ significand.matches' ↔ (cs ≠ [] ∧ Numeral.AllDigits cs) ∨
      ∃ whole fraction, cs = whole ++ '.' :: fraction ∧ Numeral.AllDigits whole ∧
        Numeral.AllDigits fraction ∧ ¬(whole = [] ∧ fraction = []) := by
  rw [significand, matches'_add, Language.mem_add, matches'_mul, matches'_mul, Language.mem_mul,
    Language.mem_mul]
  constructor
  · rintro (⟨whole, some_, tail, behind, rfl⟩ | ⟨point, there, fraction, some_, rfl⟩)
    · obtain ⟨nonempty, first⟩ := mem_digits.mp some_
      rcases mem_optional.mp behind with rfl | pointed
      · rw [List.append_nil]
        exact Or.inl ⟨nonempty, first⟩
      · obtain ⟨point, there, fraction, second, rfl⟩ := Language.mem_mul.mp pointed
        rw [mem_char.mp there]
        exact Or.inr ⟨whole, fraction, rfl, first, mem_star_digit.mp second, fun both => nonempty both.1⟩
    · obtain ⟨nonempty, second⟩ := mem_digits.mp some_
      rw [mem_char.mp there]
      exact Or.inr ⟨[], fraction, rfl, by simp [Numeral.AllDigits], second, fun both => nonempty both.2⟩
  · rintro (⟨nonempty, all⟩ | ⟨whole, fraction, rfl, first, second, one⟩)
    · exact Or.inl ⟨cs, mem_digits.mpr ⟨nonempty, all⟩, [], mem_optional.mpr (Or.inl rfl),
        List.append_nil cs⟩
    · by_cases nonempty : whole = []
      · refine Or.inr ⟨['.'], rfl, fraction, mem_digits.mpr ⟨?_, second⟩, by rw [nonempty]; rfl⟩
        exact fun none_ => one ⟨nonempty, none_⟩
      · refine Or.inl ⟨whole, mem_digits.mpr ⟨nonempty, first⟩, '.' :: fraction, ?_, rfl⟩
        exact mem_optional.mpr (Or.inr (Language.mem_mul.mpr
          ⟨['.'], rfl, fraction, mem_star_digit.mpr second, rfl⟩))

theorem digits_begin {cs : List Char} (member : cs ∈ digits.matches') :
    ∃ c rest, cs = c :: rest ∧ c.isDigit = true := by
  obtain ⟨some_, all⟩ := mem_digits.mp member
  obtain ⟨c, rest, rfl⟩ := List.exists_cons_of_ne_nil some_
  exact ⟨c, rest, rfl, all c List.mem_cons_self⟩

theorem unsigned_begins {cs : List Char} (member : cs ∈ unsigned.matches') :
    ∃ c rest, cs = c :: rest ∧ (c.isDigit = true ∨ c = '.') := by
  obtain ⟨front, number, tail, -, rfl⟩ := Language.mem_mul.mp member
  rcases mem_significand.mp number with whole | ⟨whole, fraction, rfl, all, -, -⟩
  · obtain ⟨c, rest, rfl, digit⟩ := digits_begin (mem_digits.mpr whole)
    exact ⟨c, rest ++ tail, rfl, Or.inl digit⟩
  · cases whole with
    | nil => exact ⟨'.', fraction ++ tail, rfl, Or.inr rfl⟩
    | cons c rest => exact ⟨c, _, rfl, Or.inl (all c List.mem_cons_self)⟩

theorem exponent_begins {cs : List Char} (member : cs ∈ (optional exponent).matches') :
    ∀ c ∈ cs.head?, c.isDigit = false ∧ c ≠ '.' := by
  rcases mem_optional.mp member with rfl | some_
  · rintro c ⟨⟩
  · obtain ⟨c, letter, rest, -, rfl⟩ := mem_oneOf_mul.mp some_
    rintro d ⟨⟩
    rcases List.mem_pair.mp letter with rfl | rfl <;> decide

theorem toLower_eq_iff {c : Char} (lower : c.isLower = true) (d : Char) :
    d.toLower = c ↔ d = c ∨ d = c.toUpper := by
  -- there are few letters, so each of them is tried
  have smalls : ∀ code ∈ List.range' 97 26, (Char.ofNat code).toLower = Char.ofNat code ∧
      (Char.ofNat code).toUpper.toLower = Char.ofNat code := by decide
  have capitals : ∀ code ∈ List.range' 65 26,
      (Char.ofNat code).toLower.toUpper = Char.ofNat code := by decide
  obtain ⟨low, high⟩ := Bool.and_eq_true_iff.mp lower
  simp only [ge_iff_le, UInt32.le_iff_toNat_le, decide_eq_true_eq] at low high
  have small := smalls c.toNat (List.mem_range'_1.mpr ⟨low, Nat.lt_succ_of_le high⟩)
  rw [Char.ofNat_toNat] at small
  constructor
  · rintro rfl
    by_cases upper : d.val ≥ 'A'.val ∧ d.val ≤ 'Z'.val
    · simp only [ge_iff_le, UInt32.le_iff_toNat_le] at upper
      have capital := capitals d.toNat
        (List.mem_range'_1.mpr ⟨upper.1, Nat.lt_succ_of_le upper.2⟩)
      rw [Char.ofNat_toNat] at capital
      exact Or.inr capital.symm
    · have same : d.toLower = d := dif_neg upper
      exact Or.inl same.symm
  · rintro (rfl | rfl)
    · exact small.1
    · exact small.2

theorem mem_word {letters : List Char} (lower : ∀ c ∈ letters, c.isLower = true) {cs : List Char} :
    cs ∈ (word letters).matches' ↔ Numeral.lowercase cs = letters := by
  induction letters generalizing cs with
  | nil => simp [word, Numeral.lowercase, Language.mem_one]
  | cons c rest ih =>
      have small {cs : List Char} : cs ∈ (word rest).matches' ↔ Numeral.lowercase cs = rest :=
        ih fun d member => lower d (List.mem_cons_of_mem _ member)
      have split : word (c :: rest) = oneOf [c, c.toUpper] * word rest := rfl
      have first := toLower_eq_iff (lower c List.mem_cons_self)
      rw [split, mem_oneOf_mul]
      simp only [List.mem_pair, ← first]
      constructor
      · rintro ⟨d, same, tail, member, rfl⟩
        rw [Numeral.lowercase, List.map_cons, same, ← Numeral.lowercase, small.mp member]
      · intro same
        cases cs with
        | nil => cases same
        | cons d tail =>
            obtain ⟨head, behind⟩ := List.cons.inj same
            exact ⟨d, head, tail, small.mpr behind, rfl⟩

end Grammar

namespace Numeral

open Grammar

theorem wholeDigits?_isSome {cs : List Char} :
    (wholeDigits? cs).isSome = true ↔ cs ∈ digits.matches' := by
  rw [mem_digits, wholeDigits?]
  split
  · rename_i both
    simpa [AllDigits] using both
  · rename_i neither
    simpa [AllDigits] using neither

theorem exponent?_cons_isSome {c : Char} (letter : c = 'e' ∨ c = 'E') (rest : List Char) :
    (exponent? (c :: rest)).isSome = (wholeDigits? (splitSign rest).2).isSome := by
  simp only [exponent?, if_pos letter]
  cases wholeDigits? (splitSign rest).2 <;> rfl

theorem exponent?_isSome {cs : List Char} :
    (exponent? cs).isSome = true ↔ cs ∈ (optional exponent).matches' := by
  have free : ∀ cs ∈ digits.matches', ∀ c ∈ cs.head?, c ≠ '+' ∧ c ≠ '-' := by
    intro cs member
    obtain ⟨c, rest, rfl, digit⟩ := digits_begin member
    rintro d ⟨⟩
    exact ⟨digit_ne digit rfl, digit_ne digit rfl⟩
  cases cs with
  | nil => exact iff_of_true rfl (mem_optional.mpr (Or.inl rfl))
  | cons c rest =>
      rw [mem_optional, exponent, mem_oneOf_mul]
      simp only [List.cons.injEq, reduceCtorEq, false_or, List.mem_pair]
      by_cases letter : c = 'e' ∨ c = 'E'
      · rw [exponent?_cons_isSome letter, wholeDigits?_isSome, ← mem_signed free]
        constructor
        · intro member
          exact ⟨c, letter, rest, member, rfl, rfl⟩
        · rintro ⟨d, -, tail, member, -, rfl⟩
          exact member
      · rw [exponent?, if_neg letter]
        constructor
        · intro some_
          cases some_
        · rintro ⟨d, known, tail, -, rfl, -⟩
          exact absurd known letter

theorem exists_digits (cs : List Char) :
    ∃ whole rest, cs = whole ++ rest ∧ AllDigits whole ∧ Text.NoDigit rest := by
  refine ⟨cs.takeWhile Char.isDigit, cs.dropWhile Char.isDigit, ?_, ?_, ?_⟩
  · exact List.takeWhile_append_dropWhile.symm
  · exact fun c member => List.mem_takeWhile_imp member
  · intro c head
    have stop := List.head?_dropWhile_not Char.isDigit cs
    rw [head] at stop
    simpa using stop

theorem decimal?_unpointed {whole tail : List Char} (digits : AllDigits whole)
    (ends : ∀ c ∈ tail.head?, c.isDigit = false ∧ c ≠ '.') :
    (decimal? (whole ++ tail)).isSome = true ↔
      whole ≠ [] ∧ tail ∈ (optional exponent).matches' := by
  obtain ⟨taken, left⟩ := Text.span_digits digits fun c head => (ends c head).1
  have split : splitFraction tail = ([], tail) := by
    unfold splitFraction
    split
    · exact absurd rfl (ends '.' rfl).2
    · rfl
  rw [← exponent?_isSome, decimal?, taken, left, split]
  by_cases none_ : whole = [] <;> simp [none_]

theorem decimal?_pointed {whole fraction tail : List Char} (first : AllDigits whole)
    (second : AllDigits fraction) (ends : Text.NoDigit tail) :
    (decimal? (whole ++ '.' :: (fraction ++ tail))).isSome = true ↔
      ¬(whole = [] ∧ fraction = []) ∧ tail ∈ (optional exponent).matches' := by
  have point : Text.NoDigit ('.' :: (fraction ++ tail)) := Text.noDigit_cons rfl _
  obtain ⟨taken, left⟩ := Text.span_digits first point
  obtain ⟨inner, behind⟩ := Text.span_digits second ends
  have split : splitFraction ('.' :: (fraction ++ tail)) = (fraction, tail) := by
    rw [splitFraction, inner, behind]
  rw [← exponent?_isSome, decimal?, taken, left, split]
  by_cases none_ : whole = [] ∧ fraction = [] <;> simp [none_]

theorem decimal?_isSome {cs : List Char} :
    (decimal? cs).isSome = true ↔ cs ∈ unsigned.matches' := by
  rw [unsigned, RegularExpression.matches'_mul, Language.mem_mul]
  constructor
  · intro read
    obtain ⟨whole, rest, rfl, first, stop⟩ := exists_digits cs
    by_cases point : rest.head? = some '.'
    · obtain ⟨behind, rfl⟩ : ∃ behind, rest = '.' :: behind := by
        cases rest with
        | nil => cases point
        | cons c behind => exact ⟨behind, by rw [Option.some.inj point]⟩
      obtain ⟨fraction, tail, rfl, second, ends⟩ := exists_digits behind
      obtain ⟨one, exponent⟩ := (decimal?_pointed first second ends).mp read
      refine ⟨whole ++ '.' :: fraction, ?_, tail, exponent, by simp⟩
      exact mem_significand.mpr (Or.inr ⟨whole, fraction, rfl, first, second, one⟩)
    · have ends : ∀ c ∈ rest.head?, c.isDigit = false ∧ c ≠ '.' := by
        intro c head
        refine ⟨stop c head, ?_⟩
        rintro rfl
        exact point head
      obtain ⟨some_, exponent⟩ := (decimal?_unpointed first ends).mp read
      exact ⟨whole, mem_significand.mpr (Or.inl ⟨some_, first⟩), rest, exponent, rfl⟩
  · rintro ⟨number, significand, tail, exponent, rfl⟩
    have ends := exponent_begins exponent
    rcases mem_significand.mp significand with ⟨some_, all⟩ | ⟨whole, fraction, rfl, first, second, one⟩
    · exact (decimal?_unpointed all ends).mpr ⟨some_, exponent⟩
    · rw [List.append_assoc, List.cons_append]
      exact (decimal?_pointed first second fun c head => (ends c head).1).mpr ⟨one, exponent⟩

theorem isWord_iff {cs : List Char} :
    (isInfinityWord cs = true ∨ isNaNWord cs = true) ↔ cs ∈ words.matches' := by
  have short : ∀ c ∈ ['i', 'n', 'f'], c.isLower = true := by simp
  have long : ∀ c ∈ ['i', 'n', 'f', 'i', 'n', 'i', 't', 'y'], c.isLower = true := by simp
  have none_ : ∀ c ∈ ['n', 'a', 'n'], c.isLower = true := by simp
  rw [words, RegularExpression.matches'_add, RegularExpression.matches'_add, Language.mem_add,
    Language.mem_add, mem_word short, mem_word long, mem_word none_]
  simp [isInfinityWord, isNaNWord]

theorem words_begin {cs : List Char} (member : cs ∈ words.matches') :
    ∃ c rest, cs = c :: rest ∧ (c.toLower = 'i' ∨ c.toLower = 'n') := by
  have spelled := isWord_iff.mpr member
  cases cs with
  | nil => exact absurd spelled (by decide)
  | cons c rest =>
      refine ⟨c, rest, rfl, ?_⟩
      simp only [isInfinityWord, isNaNWord, lowercase, List.map_cons, List.cons.injEq, Bool.or_eq_true,
        decide_eq_true_eq] at spelled
      rcases spelled with (short | long) | none_
      · exact Or.inl short.1
      · exact Or.inl long.1
      · exact Or.inr none_.1

/-- The reader accepts the texts of the grammar and no others. -/
theorem read?_isSome (cs : List Char) : (read? cs).isSome = true ↔ cs ∈ numeral.matches' := by
  have free : ∀ cs ∈ (words + unsigned).matches', ∀ c ∈ cs.head?, c ≠ '+' ∧ c ≠ '-' := by
    rintro cs (member | member) d head
    · obtain ⟨c, rest, rfl, letter⟩ := words_begin member
      cases head
      constructor <;> rintro rfl <;> revert letter <;> decide
    · obtain ⟨c, rest, rfl, start⟩ := unsigned_begins member
      cases head
      constructor <;> rintro rfl <;> revert start <;> decide
  rw [numeral, mem_signed free, RegularExpression.matches'_add, Language.mem_add, ← isWord_iff,
    ← decimal?_isSome, read?]
  by_cases infinite : isInfinityWord (splitSign cs).2 = true
  · simp [infinite]
  · by_cases none_ : isNaNWord (splitSign cs).2 = true
    · simp [infinite, none_]
    · simp [infinite, none_]

end Numeral
end CaptureProbe
