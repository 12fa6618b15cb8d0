import CaptureProbe.Proofs.NumeralGrammar
import CaptureProbe.Value.Literal

/-!
The grammar of literals. The reader tries three layers one after the other: seven words, the numerals
that begin as a number may, and texts with or without quotes. The second layer asks for the first
character only, so a word for infinity or NaN with a sign in front passes as a number.
-/

namespace CaptureProbe

namespace Grammar

theorem matches_numeral :
    numeral.matches' = words.matches' + signedWord.matches' + decimal.matches' := by
  have signs : (optional sign).matches' = 1 + sign.matches' := rfl
  rw [numeral, decimal, signedWord, RegularExpression.matches'_mul, RegularExpression.matches'_mul,
    RegularExpression.matches'_mul, RegularExpression.matches'_add, mul_add, signs]
  congr 1
  rw [add_mul, one_mul]

end Grammar

namespace Value

open Grammar

-- words for values that are no numbers
def plainWords : List String := ["undefined", "null", "true", "false"]

-- words for numbers that are exactly so spelled
def numberWords : List String := ["NaN", "Infinity", "-Infinity"]

def IsNumberLiteral (s : String) : Prop :=
  s ∈ numberWords ∨ s.toList ∈ decimal.matches' ∨ s.toList ∈ signedWord.matches'

instance (s : String) : Decidable (IsNumberLiteral s) := inferInstanceAs (Decidable (_ ∨ _ ∨ _))

def IsQuoted (cs : List Char) : Prop :=
  2 ≤ cs.length ∧ cs.head? = some '"' ∧ cs.getLast? = some '"'

instance (cs : List Char) : Decidable (IsQuoted cs) := inferInstanceAs (Decidable (_ ∧ _ ∧ _))

def bare (s : String) : String :=
  if IsQuoted s.toList then String.ofList (s.toList.drop 1).dropLast else s

theorem unquote_eq (cs : List Char) :
    unquote cs = if IsQuoted cs then (cs.drop 1).dropLast else cs := by
  cases cs with
  | nil => rfl
  | cons c rest =>
      cases rest with
      | nil => simp [unquote, IsQuoted]
      | cons d rest => simp [unquote, IsQuoted]

theorem ofList_unquote (s : String) : String.ofList (unquote s.toList) = bare s := by
  rw [unquote_eq, bare]
  split
  · rfl
  · rw [String.ofList_toList]

-- Whatever else a number is spelled with, its first character gives it away.
theorem numeral_begins {cs : List Char}
    (member : cs ∈ decimal.matches' ∨ cs ∈ signedWord.matches') :
    ∃ c rest, cs = c :: rest ∧ beginsNumber c = true := by
  have signs : ∀ c ∈ ['+', '-'], beginsNumber c = true := by simp [beginsNumber]
  rcases member with number | word
  · obtain ⟨front, signed, body, unsigned, rfl⟩ := Language.mem_mul.mp number
    rcases mem_optional.mp signed with rfl | one
    · obtain ⟨c, rest, rfl, start⟩ := unsigned_begins unsigned
      refine ⟨c, rest, rfl, ?_⟩
      rcases start with digit | rfl
      · simp [beginsNumber, digit]
      · rfl
    · obtain ⟨c, known, rfl⟩ := mem_oneOf.mp one
      exact ⟨c, body, rfl, signs c known⟩
  · obtain ⟨c, known, rest, -, rfl⟩ := mem_oneOf_mul.mp word
    exact ⟨c, rest, rfl, signs c known⟩

theorem word_begins {c : Char} {rest : List Char} (member : c :: rest ∈ words.matches') :
    beginsNumber c ≠ true := by
  intro begins
  obtain ⟨d, tail, same, letter⟩ := Numeral.words_begin member
  obtain ⟨rfl, rfl⟩ := List.cons.inj same
  simp only [beginsNumber, Bool.or_eq_true, decide_eq_true_eq] at begins
  rcases begins with ((digit | rfl) | rfl) | rfl
  · rw [Numeral.toLower_of_digit digit] at letter
    rcases letter with rfl | rfl <;> cases digit
  all_goals exact absurd letter (by decide)

theorem numeric?_isSome (cs : List Char) :
    (numeric? cs).isSome = true ↔ cs ∈ decimal.matches' ∨ cs ∈ signedWord.matches' := by
  constructor
  · intro some_
    cases cs with
    | nil => cases some_
    | cons c rest =>
        by_cases begins : beginsNumber c = true
        · rw [numeric?, if_pos begins, Option.isSome_map, Numeral.read?_isSome,
            matches_numeral] at some_
          rcases some_ with (word | signed) | number
          -- here the first character is of use: it keeps the words without a sign out
          · exact absurd begins (word_begins word)
          · exact Or.inr signed
          · exact Or.inl number
        · rw [numeric?, if_neg begins] at some_
          cases some_
  · intro member
    obtain ⟨c, rest, rfl, begins⟩ := numeral_begins member
    rw [numeric?, if_pos begins, Option.isSome_map, Numeral.read?_isSome, matches_numeral]
    rcases member with number | signed
    · exact Or.inr number
    · exact Or.inl (Or.inr signed)

theorem plainWords_apart : ∀ s ∈ plainWords, ¬IsNumberLiteral s := by decide

theorem keyword?_eq_none {s : String} (plain : s ∉ plainWords) (word : s ∉ numberWords) :
    keyword? s = none := by
  simp only [plainWords, numberWords, List.mem_cons, List.not_mem_nil, or_false, not_or] at plain word
  simp [keyword?, plain, word]

theorem ofLiteral_of_number {s : String} (literal : IsNumberLiteral s) :
    ∃ x, ofLiteral s = .number x := by
  by_cases word : s ∈ numberWords
  · simp only [numberWords, List.mem_cons, List.not_mem_nil, or_false] at word
    rcases word with rfl | rfl | rfl <;> exact ⟨_, rfl⟩
  · have plain : s ∉ plainWords := fun plain => plainWords_apart s plain literal
    have some_ := (numeric?_isSome s.toList).mpr (literal.resolve_left word)
    obtain ⟨x, read⟩ := Option.isSome_iff_exists.mp some_
    refine ⟨x, ?_⟩
    rw [ofLiteral, keyword?_eq_none plain word, read]

theorem ofLiteral_of_text {s : String} (plain : s ∉ plainWords) (other : ¬IsNumberLiteral s) :
    ofLiteral s = .text (bare s) := by
  have word : s ∉ numberWords := fun word => other (Or.inl word)
  have none_ : numeric? s.toList = none := by
    rw [← Option.not_isSome_iff_eq_none, numeric?_isSome]
    exact fun literal => other (Or.inr literal)
  rw [ofLiteral, keyword?_eq_none plain word, none_, ofList_unquote]

theorem ofLiteral_eq_number_iff (s : String) :
    (∃ x, ofLiteral s = .number x) ↔ IsNumberLiteral s := by
  refine ⟨?_, ofLiteral_of_number⟩
  rintro ⟨x, same⟩
  by_contra other
  by_cases plain : s ∈ plainWords
  · have kinds : ∀ s ∈ plainWords, (ofLiteral s).kind ≠ "number" := by decide
    apply kinds s plain
    rw [same]
    rfl
  · rw [ofLiteral_of_text plain other] at same
    cases same

/-- Every text is a literal, of one of three kinds. The plain words have values of their own; numbers are
the three words, the decimals and the signed words for infinity and NaN, and nothing else; all other
literals are texts, less one pair of surrounding quotes. No literal is a reference. -/
theorem literal_grammar (s : String) :
    (ofLiteral s = .undefined ↔ s = "undefined") ∧ (ofLiteral s = .null ↔ s = "null") ∧
      (ofLiteral s = .bool true ↔ s = "true") ∧ (ofLiteral s = .bool false ↔ s = "false") ∧
      ((∃ x, ofLiteral s = .number x) ↔ IsNumberLiteral s) ∧
      (∀ t, ofLiteral s = .text t ↔ (s ∉ plainWords ∧ ¬IsNumberLiteral s) ∧ t = bare s) ∧
      (∀ ref, ofLiteral s ≠ .object ref) ∧ ∀ ref, ofLiteral s ≠ .function ref := by
  by_cases plain : s ∈ plainWords
  · have other := plainWords_apart s plain
    simp only [plainWords, List.mem_cons, List.not_mem_nil, or_false] at plain
    rcases plain with rfl | rfl | rfl | rfl
    · have same : ofLiteral "undefined" = .undefined := rfl
      simp [same, other, plainWords]
    · have same : ofLiteral "null" = .null := rfl
      simp [same, other, plainWords]
    · have same : ofLiteral "true" = .bool true := rfl
      simp [same, other, plainWords]
    · have same : ofLiteral "false" = .bool false := rfl
      simp [same, other, plainWords]
  · have words := plain
    simp only [plainWords, List.mem_cons, List.not_mem_nil, or_false, not_or] at words
    by_cases literal : IsNumberLiteral s
    · obtain ⟨x, same⟩ := ofLiteral_of_number literal
      simp [same, literal, words]
    · have same := ofLiteral_of_text plain literal
      simp [same, literal, words, plain, eq_comm]

theorem digit_of_significand {cs : List Char} (member : cs ∈ significand.matches') :
    ∃ c ∈ cs, c.isDigit = true := by
  rcases mem_significand.mp member with ⟨some_, all⟩ | ⟨whole, fraction, rfl, first, second, one⟩
  · obtain ⟨c, inside⟩ := List.exists_mem_of_ne_nil cs some_
    exact ⟨c, inside, all c inside⟩
  · by_cases none_ : whole = []
    · have some_ : fraction ≠ [] := fun nothing => one ⟨none_, nothing⟩
      obtain ⟨c, inside⟩ := List.exists_mem_of_ne_nil fraction some_
      exact ⟨c, List.mem_append_right whole (List.mem_cons_of_mem _ inside), second c inside⟩
    · obtain ⟨c, inside⟩ := List.exists_mem_of_ne_nil whole none_
      exact ⟨c, List.mem_append_left _ inside, first c inside⟩

theorem digit_of_decimal {cs : List Char} (member : cs ∈ decimal.matches') :
    ∃ c ∈ cs, c.isDigit = true := by
  obtain ⟨front, -, body, number, rfl⟩ := Language.mem_mul.mp member
  obtain ⟨digits, significand, tail, -, rfl⟩ := Language.mem_mul.mp number
  obtain ⟨c, inside, digit⟩ := digit_of_significand significand
  exact ⟨c, List.mem_append_right front (List.mem_append_left tail inside), digit⟩

/-- Without a digit, a number that is not one of the three words is a sign in front of a word for
infinity or NaN. -/
theorem digitless_numbers {s : String} (other : s ∉ numberWords)
    (digitless : ∀ c ∈ s.toList, c.isDigit = false) :
    (∃ x, ofLiteral s = .number x) ↔ s.toList ∈ signedWord.matches' := by
  rw [ofLiteral_eq_number_iff, IsNumberLiteral, or_iff_right other, or_iff_right]
  intro decimal
  obtain ⟨c, member, digit⟩ := digit_of_decimal decimal
  rw [digitless c member] at digit
  cases digit

theorem digitless_negative_nan :
    "-nAn" ∉ numberWords ∧ (∀ c ∈ "-nAn".toList, c.isDigit = false) ∧
      ∃ x, ofLiteral "-nAn" = .number x := by
  have other : "-nAn" ∉ numberWords := by decide
  have digitless : ∀ c ∈ "-nAn".toList, c.isDigit = false := by simp
  exact ⟨other, digitless, (digitless_numbers other digitless).mpr (by decide)⟩

/-- A sign makes a number of a word that is a text without it. -/
theorem signed_infinity_is_number :
    "+inf" ∉ numberWords ∧ (∀ c ∈ "+inf".toList, c.isDigit = false) ∧
      ofLiteral "+inf" = .number (Number.infinity false) ∧ ofLiteral "inf" = .text "inf" := by
  refine ⟨by decide, ?_, by decide, by decide⟩
  simp

end Value
end CaptureProbe
