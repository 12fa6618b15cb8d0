import CaptureProbe.Proofs.JsonTree

/-!
The JSON lists of strings. The grammar says which characters may stand for a string and where blanks
may stand; it does not say how a text is read. The reader accepts the texts of the grammar and no
others, and it finds the strings that the grammar gives. What the writer makes of strings is such a
text in either style, so every list of strings can be written and is read back.
-/

namespace CaptureProbe.Json

def Blanks (text rest : List Char) : Prop :=
  ∃ blanks, text = blanks ++ rest ∧ ∀ c ∈ blanks, c ∈ [' ', '\n', '\t', '\r']

def HexDigit (c : Char) (n : Nat) : Prop :=
  n < 16 ∧ (c = Nat.digitChar n ∨ c = (Nat.digitChar n).toUpper)

inductive CodeUnit : List Char → Nat → List Char → Prop where
  | digits {a b c d : Char} {i j k l : Nat} {rest : List Char} (first : HexDigit a i)
      (second : HexDigit b j) (third : HexDigit c k) (fourth : HexDigit d l) :
      CodeUnit (a :: b :: c :: d :: rest) (i * 4096 + j * 256 + k * 16 + l) rest

def shortEscapes : List (Char × Char) :=
  [('"', '"'), ('\\', '\\'), ('/', '/'), ('b', '\x08'), ('f', '\x0c'), ('n', '\n'), ('r', '\r'),
    ('t', '\t')]

/-- A character of a string, and then the rest. Characters beyond the range of one code unit are
escaped as two. -/
inductive Character : List Char → Char → List Char → Prop where
  | itself {c : Char} {rest : List Char} (quote : c ≠ '"') (backslash : c ≠ '\\')
      (visible : 0x20 ≤ c.toNat) : Character (c :: rest) c rest
  | short {letter c : Char} {rest : List Char} (known : (letter, c) ∈ shortEscapes) :
      Character ('\\' :: letter :: rest) c rest
  | unit {text rest : List Char} {n : Nat} (digits : CodeUnit text n rest)
      (whole : n < 0xD800 ∨ 0xE000 ≤ n) : Character ('\\' :: 'u' :: text) (Char.ofNat n) rest
  | pair {text more rest : List Char} {high low : Nat}
      (first : CodeUnit text high ('\\' :: 'u' :: more)) (upper : 0xD800 ≤ high ∧ high < 0xDC00)
      (second : CodeUnit more low rest) (lower : 0xDC00 ≤ low ∧ low < 0xE000) :
      Character ('\\' :: 'u' :: text)
        (Char.ofNat (0x10000 + (high - 0xD800) * 0x400 + (low - 0xDC00))) rest

inductive Characters : List Char → List Char → List Char → Prop where
  | close {rest : List Char} : Characters ('"' :: rest) [] rest
  | next {text more rest : List Char} {c : Char} {cs : List Char} (one : Character text c more)
      (others : Characters more cs rest) : Characters text (c :: cs) rest

/-- The members of a list from its first quote to its closing bracket, and then the rest. -/
inductive Members : List Char → List String → List Char → Prop where
  | last {text after rest : List Char} {s : String} (string : Characters text s.toList after)
      (closed : Blanks after (']' :: rest)) : Members ('"' :: text) [s] rest
  | next {text after more others rest : List Char} {s : String} {items : List String}
      (string : Characters text s.toList after) (comma : Blanks after (',' :: more))
      (blanks : Blanks more others) (members : Members others items rest) :
      Members ('"' :: text) (s :: items) rest

inductive StringList (text : String) : List String → Prop where
  | none {inside after : List Char} (opened : Blanks text.toList ('[' :: inside))
      (closed : Blanks inside (']' :: after)) (ended : Blanks after []) : StringList text []
  | some {inside members after : List Char} {items : List String}
      (opened : Blanks text.toList ('[' :: inside)) (blanks : Blanks inside members)
      (strings : Members members items after) (ended : Blanks after []) : StringList text items

theorem isBlank_iff (c : Char) : isBlank c = true ↔ c ∈ [' ', '\n', '\t', '\r'] := by
  simp [isBlank, or_assoc]

theorem Blanks.refl (text : List Char) : Blanks text text := ⟨[], rfl, by simp⟩

theorem blanks_skipBlanks (text : List Char) : Blanks text (skipBlanks text) := by
  refine ⟨text.takeWhile isBlank, List.takeWhile_append_dropWhile.symm, ?_⟩
  intro c member
  exact (isBlank_iff c).mp (List.mem_takeWhile_imp member)

theorem skipBlanks_of_blanks {text rest : List Char} (blanks : Blanks text rest) :
    skipBlanks text = skipBlanks rest := by
  obtain ⟨front, rfl, all⟩ := blanks
  exact List.dropWhile_append_of_pos fun c member => (isBlank_iff c).mpr (all c member)

-- A visible character ends the blanks, so it is found behind them in one way only.
theorem skipBlanks_eq_cons_iff {text rest : List Char} {c : Char} (visible : isBlank c = false) :
    skipBlanks text = c :: rest ↔ Blanks text (c :: rest) := by
  constructor
  · intro same
    exact same ▸ blanks_skipBlanks text
  · intro blanks
    rw [skipBlanks_of_blanks blanks]
    simp [skipBlanks, visible]

theorem skipBlanks_eq_nil_iff (text : List Char) : skipBlanks text = [] ↔ Blanks text [] := by
  constructor
  · intro same
    exact same ▸ blanks_skipBlanks text
  · intro blanks
    exact skipBlanks_of_blanks blanks

theorem hexDigit_of_hexValue? {c : Char} {n : Nat} (read : hexValue? c = some n) : HexDigit c n := by
  have digits : ∀ n < 10, (Nat.digitChar n).toNat = n + 48 := by decide
  have lowers : ∀ n < 16, 10 ≤ n → (Nat.digitChar n).toNat = n + 87 := by decide
  have uppers : ∀ n < 16, 10 ≤ n → (Nat.digitChar n).toUpper.toNat = n + 55 := by decide
  have order (a b : Char) : a ≤ b ↔ a.toNat ≤ b.toNat := by
    rw [Char.le_def, UInt32.le_iff_toNat_le]
    rfl
  unfold hexValue? at read
  simp only [Char.isDigit_iff_toNat, order, Char.reduceToNat] at read
  split at read
  · cases read
    exact ⟨by omega, Or.inl (Char.toNat_inj.mp (by rw [digits _ (by omega)]; omega))⟩
  · split at read
    · cases read
      refine ⟨by omega, Or.inl (Char.toNat_inj.mp ?_)⟩
      rw [lowers _ (by omega) (by omega)]
      omega
    · split at read
      · cases read
        refine ⟨by omega, Or.inr (Char.toNat_inj.mp ?_)⟩
        rw [uppers _ (by omega) (by omega)]
        omega
      · cases read

theorem hexValue?_eq_some_iff (c : Char) (n : Nat) : hexValue? c = some n ↔ HexDigit c n := by
  constructor
  · exact hexDigit_of_hexValue?
  · have both : ∀ n < 16, hexValue? (Nat.digitChar n) = some n ∧
        hexValue? (Nat.digitChar n).toUpper = some n := by decide
    rintro ⟨small, rfl | rfl⟩
    · exact (both n small).1
    · exact (both n small).2

theorem codeUnit?_eq_some_iff (text : List Char) (n : Nat) (rest : List Char) :
    codeUnit? text = some (n, rest) ↔ CodeUnit text n rest := by
  constructor
  · intro read
    unfold codeUnit? at read
    split at read
    · simp only [Option.bind_eq_bind, Option.bind_eq_some_iff, Option.pure_def, Option.some.injEq,
        Prod.mk.injEq] at read
      obtain ⟨i, first, j, second, k, third, l, fourth, rfl, rfl⟩ := read
      have value : ((i * 16 + j) * 16 + k) * 16 + l = i * 4096 + j * 256 + k * 16 + l := by omega
      rw [value]
      exact .digits ((hexValue?_eq_some_iff _ i).mp first) ((hexValue?_eq_some_iff _ j).mp second)
        ((hexValue?_eq_some_iff _ k).mp third) ((hexValue?_eq_some_iff _ l).mp fourth)
    · cases read
  · rintro ⟨first, second, third, fourth⟩
    rw [← hexValue?_eq_some_iff] at first second third fourth
    simp only [codeUnit?, first, second, third, fourth, Option.bind_eq_bind, Option.bind_some,
      Option.pure_def, Option.some.injEq, Prod.mk.injEq, and_true]
    omega

theorem character_of_numbered? {text rest : List Char} {c : Char}
    (read : numbered? text = some (c, rest)) : Character ('\\' :: 'u' :: text) c rest := by
  unfold numbered? at read
  split at read
  · cases read
  · rename_i unit more first
    rw [codeUnit?_eq_some_iff] at first
    simp only [isLowSurrogate, isHighSurrogate, Bool.and_eq_true, decide_eq_true_eq] at read
    split at read
    · cases read
    · split at read
      · split at read
        · split at read
          · rename_i low after second
            rw [codeUnit?_eq_some_iff] at second
            split at read
            · rename_i lower
              obtain ⟨rfl, rfl⟩ := Prod.mk.inj (Option.some.inj read)
              exact .pair first (by assumption) second lower
            · cases read
          · cases read
        · cases read
      · obtain ⟨rfl, rfl⟩ := Prod.mk.inj (Option.some.inj read)
        exact .unit first (by omega)

theorem escape?_eq_some_iff (text : List Char) (c : Char) (rest : List Char) :
    escape? text = some (c, rest) ↔ Character ('\\' :: text) c rest := by
  constructor
  · intro read
    unfold escape? at read
    split at read
    case h_9 => exact character_of_numbered? read
    case h_10 => cases read
    all_goals
      cases read
      exact .short (by decide)
  · intro character
    cases character with
    | itself quote backslash visible => exact absurd rfl backslash
    | short known =>
        simp only [shortEscapes, List.mem_cons, Prod.mk.injEq, List.not_mem_nil, or_false] at known
        rcases known with ⟨rfl, rfl⟩ | ⟨rfl, rfl⟩ | ⟨rfl, rfl⟩ | ⟨rfl, rfl⟩ | ⟨rfl, rfl⟩ | ⟨rfl, rfl⟩ |
          ⟨rfl, rfl⟩ | ⟨rfl, rfl⟩ <;> rfl
    | unit digits whole =>
        rw [← codeUnit?_eq_some_iff] at digits
        rw [escape?, numbered?, digits]
        simp only [isLowSurrogate, isHighSurrogate, Bool.and_eq_true, decide_eq_true_eq]
        rw [if_neg (by omega), if_neg (by omega)]
    | pair first upper second lower =>
        rw [← codeUnit?_eq_some_iff] at first second
        rw [escape?, numbered?, first]
        simp only [isLowSurrogate, isHighSurrogate, Bool.and_eq_true, decide_eq_true_eq, second]
        rw [if_neg (by omega), if_pos upper, if_pos lower]

theorem stringTail?_of_character {text more : List Char} {c : Char}
    (character : Character text c more) :
    stringTail? text = (stringTail? more).map fun tail => (c :: tail.1, tail.2) := by
  have escaped : ∀ code, text = '\\' :: code →
      stringTail? text = (stringTail? more).map fun tail => (c :: tail.1, tail.2) := by
    rintro code rfl
    exact stringTail?_escape ((escape?_eq_some_iff code c more).mpr character)
  cases character with
  | itself quote backslash visible =>
      rw [stringTail?, if_neg (Nat.not_lt.mpr visible)]
      · exact fun same => quote same
      · exact fun same => backslash same
  | short known => exact escaped _ rfl
  | unit digits whole => exact escaped _ rfl
  | pair first upper second lower => exact escaped _ rfl

theorem stringTail?_eq_some_iff (text cs rest : List Char) :
    stringTail? text = some (cs, rest) ↔ Characters text cs rest := by
  constructor
  · intro read
    fun_induction stringTail? text generalizing cs with
    | case1 => cases read
    | case2 after =>
        cases read
        exact .close
    | case3 after c tail escaped shorter ih =>
        obtain ⟨pair, found, same⟩ := Option.map_eq_some_iff.mp read
        obtain ⟨rfl, rfl⟩ := Prod.mk.inj same
        exact .next ((escape?_eq_some_iff after c tail).mp escaped) (ih pair.1 found)
    | case4 => cases read
    | case5 => cases read
    | case6 c after quote backslash visible ih =>
        obtain ⟨pair, found, same⟩ := Option.map_eq_some_iff.mp read
        obtain ⟨rfl, rfl⟩ := Prod.mk.inj same
        exact .next (.itself quote backslash (Nat.not_lt.mp visible)) (ih pair.1 found)
  · intro characters
    induction characters with
    | close => rw [stringTail?]
    | next one others ih =>
        rw [stringTail?_of_character one, ih]
        rfl

theorem members?_of_string {text cs after : List Char} (read : stringTail? text = some (cs, after)) :
    members? ('"' :: text) =
      match skipBlanks after with
      | ',' :: more =>
        (members? (skipBlanks more)).map fun tail => (String.ofList cs :: tail.1, tail.2)
      | ']' :: rest => some ([String.ofList cs], rest)
      | _ => none := by
  rw [members?]
  split
  · rename_i found
    obtain ⟨rfl, rfl⟩ := Prod.mk.inj (Option.some.inj (read.symm.trans found))
    split <;> simp_all
  · rename_i found
    cases read.symm.trans found

theorem skipBlanks_members {text rest : List Char} {items : List String}
    (members : Members text items rest) : skipBlanks text = text := by
  cases members <;> rfl

theorem members?_eq_some_iff (text : List Char) (items : List String) (rest : List Char) :
    members? text = some (items, rest) ↔ Members text items rest := by
  constructor
  · intro read
    fun_induction members? text generalizing items with
    | case1 text cs after string more comma shorter ih =>
        obtain ⟨pair, found, same⟩ := Option.map_eq_some_iff.mp read
        obtain ⟨rfl, rfl⟩ := Prod.mk.inj same
        rw [stringTail?_eq_some_iff] at string
        rw [skipBlanks_eq_cons_iff rfl] at comma
        exact .next (by rwa [String.toList_ofList]) comma (blanks_skipBlanks more) (ih pair.1 found)
    | case2 text cs after string more closed =>
        cases read
        rw [stringTail?_eq_some_iff] at string
        rw [skipBlanks_eq_cons_iff rfl] at closed
        exact .last (by rwa [String.toList_ofList]) closed
    | case3 => cases read
    | case4 => cases read
    | case5 => cases read
  · intro members
    induction members with
    | @last text after rest s string closed =>
        rw [← stringTail?_eq_some_iff] at string
        rw [← skipBlanks_eq_cons_iff rfl] at closed
        rw [members?_of_string string, closed, String.ofList_toList]
        rfl
    | @next text after more others rest s items string comma blanks members ih =>
        rw [← stringTail?_eq_some_iff] at string
        rw [← skipBlanks_eq_cons_iff rfl] at comma
        have others : members? (skipBlanks more) = some (items, rest) := by
          rw [skipBlanks_of_blanks blanks, skipBlanks_members members, ih]
        rw [members?_of_string string, comma, String.ofList_toList]
        exact congrArg (Option.map _) others

theorem stringList_of_strings? {text : String} {items : List String}
    (read : strings? text = some items) : StringList text items := by
  unfold strings? at read
  split at read
  · rename_i inside opened
    rw [skipBlanks_eq_cons_iff rfl] at opened
    dsimp only at read
    split at read
    · rename_i found after members
      split at read
      · rename_i ended
        cases read
        rw [skipBlanks_eq_nil_iff] at ended
        split at members
        · rename_i closed
          obtain ⟨rfl, rfl⟩ := Prod.mk.inj (Option.some.inj members)
          rw [skipBlanks_eq_cons_iff rfl] at closed
          exact .none opened closed ended
        · rw [members?_eq_some_iff] at members
          exact .some opened (blanks_skipBlanks inside) members ended
      · cases read
    · cases read
  · cases read

theorem strings?_eq_some_iff (text : String) (items : List String) :
    strings? text = some items ↔ StringList text items := by
  constructor
  · exact stringList_of_strings?
  · intro list
    cases list with
    | none opened closed ended =>
        rw [← skipBlanks_eq_cons_iff rfl] at opened closed
        rw [← skipBlanks_eq_nil_iff] at ended
        simp only [strings?, opened, closed, ended, if_true]
    | @some inside members after _ opened blanks strings ended =>
        have visible := skipBlanks_members strings
        have read := (members?_eq_some_iff members items after).mpr strings
        rw [← skipBlanks_eq_cons_iff rfl] at opened
        rw [← skipBlanks_eq_nil_iff] at ended
        -- a member begins with a quote, so the list is not taken for an empty one
        cases strings <;>
          (simp only [strings?, opened, skipBlanks_of_blanks blanks, visible, read]
           exact if_pos ended)

theorem Style.blanks_lineBreak (style : Style) (depth : Nat) (rest : List Char) :
    Blanks ((style.lineBreak depth).toList ++ rest) rest := by
  refine ⟨_, rfl, ?_⟩
  intro c member
  cases style with
  | compact => simp [lineBreak] at member
  | pretty =>
      simp only [lineBreak, String.toList_ofList, List.mem_cons, List.mem_replicate] at member
      rcases member with rfl | ⟨-, rfl⟩ <;> decide

theorem characters_written (s : String) (rest : List Char) :
    Characters (s.toList.flatMap stringChar ++ '"' :: rest) s.toList rest :=
  (stringTail?_eq_some_iff _ _ _).mp (stringTail?_written s.toList rest)

theorem toList_string (s : String) (rest : List Char) :
    (string s).toList ++ rest = '"' :: (s.toList.flatMap stringChar ++ '"' :: rest) := by
  simp [string]

theorem members_written (style : Style) (depth : Nat) (s : String) (items : List String)
    (rest : List Char) :
    Members ((string s).toList ++ ((items.map string).flatMap (style.separated (depth + 1)) ++
      ((style.lineBreak depth).toList ++ ']' :: rest))) (s :: items) rest := by
  induction items generalizing s with
  | nil =>
      rw [toList_string]
      exact .last (characters_written s _) (style.blanks_lineBreak depth _)
  | cons t items ih =>
      rw [toList_string, List.map_cons, List.flatMap_cons, Style.separated]
      simp only [List.cons_append, List.append_assoc]
      exact .next (characters_written s _) (.refl _) (style.blanks_lineBreak (depth + 1) _)
        (ih t)

theorem stringList_written (style : Style) (depth : Nat) (items : List String) :
    StringList (style.list depth (items.map string)) items := by
  cases items with
  | nil =>
      have text : (style.list depth []).toList = ['[', ']'] := by simp [Style.list, Style.bracket]
      exact .none (text ▸ .refl _) (.refl _) (.refl _)
  | cons s items =>
      have members := members_written style depth s items []
      have text : (style.list depth ((s :: items).map string)).toList =
          '[' :: style.inside depth "]" (string s) (items.map string) :=
        style.toList_bracket_cons depth "[" "]" (string s) (items.map string)
      exact .some (text ▸ .refl _) (style.blanks_lineBreak (depth + 1) _) members (.refl _)

theorem strings?_written (style : Style) (depth : Nat) (items : List String) :
    strings? (style.list depth (items.map string)) = some items :=
  (strings?_eq_some_iff _ _).mpr (stringList_written style depth items)

end CaptureProbe.Json
