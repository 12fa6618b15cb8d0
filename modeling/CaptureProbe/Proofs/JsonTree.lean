import CaptureProbe.Text.Json
import CaptureProbe.Text.JsonStrings
import CaptureProbe.Proofs.UniqueReading

/-!
JSON text is read in one way only, in either style. A tree says what is written without saying how;
its text, in front of anything but a further digit, gives the tree back. A string that imitates the end
of its field stays inside its quotes, because what the writer escapes the reader of strings restores.
-/

namespace CaptureProbe.Json

theorem hexValue?_digitChar : ∀ n < 16, hexValue? (Nat.digitChar n) = some n := by decide

theorem escape?_controlEscape {c : Char} (control : c.toNat < 0x20) (rest : List Char) :
    escape? ((controlEscape c).tail ++ rest) = some (c, rest) := by
  have high := hexValue?_digitChar (c.toNat / 16) (by omega)
  have low := hexValue?_digitChar (c.toNat % 16) (by omega)
  have zero : hexValue? '0' = some 0 := rfl
  have unit : codeUnit? ('0' :: '0' :: Nat.digitChar (c.toNat / 16) ::
      Nat.digitChar (c.toNat % 16) :: rest) = some (c.toNat, rest) := by
    simp only [codeUnit?, high, low, zero, Option.bind_eq_bind, Option.bind_some, Option.pure_def]
    congr 2
    omega
  have whole : isLowSurrogate c.toNat = false ∧ isHighSurrogate c.toNat = false := by
    simp only [isLowSurrogate, isHighSurrogate, Bool.and_eq_false_imp, decide_eq_true_eq,
      decide_eq_false_iff_not]
    omega
  rw [controlEscape, Nat.toDigits_of_lt_base (by omega), Nat.toDigits_of_lt_base (by omega)]
  simp only [List.cons_append, List.nil_append, List.tail_cons, escape?, numbered?, unit]
  simp [whole, Char.ofNat_toNat]

theorem stringChar_cases (c : Char) :
    (∃ code, stringChar c = '\\' :: code ∧ ∀ rest, escape? (code ++ rest) = some (c, rest)) ∨
      (stringChar c = [c] ∧ c ≠ '"' ∧ c ≠ '\\' ∧ ¬ c.toNat < 0x20) := by
  by_cases quote : c = '"'
  · subst quote
    exact Or.inl ⟨['"'], rfl, fun _ => rfl⟩
  by_cases backslash : c = '\\'
  · subst backslash
    exact Or.inl ⟨['\\'], rfl, fun _ => rfl⟩
  by_cases newline : c = '\n'
  · subst newline
    exact Or.inl ⟨['n'], rfl, fun _ => rfl⟩
  by_cases carriage : c = '\r'
  · subst carriage
    exact Or.inl ⟨['r'], rfl, fun _ => rfl⟩
  by_cases tab : c = '\t'
  · subst tab
    exact Or.inl ⟨['t'], rfl, fun _ => rfl⟩
  by_cases backspace : c = '\x08'
  · subst backspace
    exact Or.inl ⟨['b'], rfl, fun _ => rfl⟩
  by_cases feed : c = '\x0c'
  · subst feed
    exact Or.inl ⟨['f'], rfl, fun _ => rfl⟩
  simp only [stringChar, quote, backslash, newline, carriage, tab, backspace, feed, if_false]
  by_cases control : c.toNat < 0x20
  · rw [if_pos control]
    exact Or.inl ⟨_, rfl, escape?_controlEscape control⟩
  · rw [if_neg control]
    exact Or.inr ⟨rfl, quote, backslash, control⟩

theorem stringTail?_escape {code rest : List Char} {c : Char} (read : escape? code = some (c, rest)) :
    stringTail? ('\\' :: code) = (stringTail? rest).map fun tail => (c :: tail.1, tail.2) := by
  rw [stringTail?]
  split
  · rename_i found
    rw [read] at found
    cases found
    rfl
  · rename_i found
    rw [read] at found
    cases found

theorem stringTail?_stringChar (c : Char) (rest : List Char) :
    stringTail? (stringChar c ++ rest) = (stringTail? rest).map fun tail => (c :: tail.1, tail.2) := by
  rcases stringChar_cases c with ⟨code, same, read⟩ | ⟨same, quote, backslash, visible⟩
  · rw [same]
    exact stringTail?_escape (read rest)
  · rw [same, List.singleton_append, stringTail?, if_neg visible]
    · simp [quote]
    · simp [backslash]

theorem stringTail?_written (s rest : List Char) :
    stringTail? (s.flatMap stringChar ++ '"' :: rest) = some (s, rest) := by
  induction s with
  | nil =>
      rw [List.flatMap_nil, List.nil_append, stringTail?]
  | cons c s ih =>
      rw [List.flatMap_cons, List.append_assoc, stringTail?_stringChar, ih]
      rfl

theorem readable_string (s : String) :
    Text.Readable Text.Anything (fun s : String => (string s).toList) s := by
  intro t rest more _ _ same
  simp only [string, String.toList_ofList, List.cons_append, List.append_assoc, List.cons.injEq,
    true_and, List.nil_append] at same
  have read := congrArg stringTail? same
  rw [stringTail?_written, stringTail?_written, Option.some.injEq, Prod.mk.injEq] at read
  exact ⟨String.toList_inj.mp read.1, read.2⟩

namespace Style

/-- What stands before a member, if a comma is put before the first one too. -/
def separated (style : Style) (depth : Nat) (member : String) : List Char :=
  ',' :: ((style.lineBreak depth).toList ++ member.toList)

theorem toList_intercalate_cons (style : Style) (depth : Nat) (first : String) (rest : List String) :
    (String.intercalate ("," ++ style.lineBreak depth) (first :: rest)).toList =
      first.toList ++ rest.flatMap (style.separated depth) := by
  induction rest generalizing first with
  | nil => simp
  | cons second rest ih =>
      rw [String.intercalate_cons_cons, String.toList_append, ih, List.flatMap_cons]
      simp [separated]

def inside (style : Style) (depth : Nat) (closing first : String) (rest : List String) : List Char :=
  (style.lineBreak (depth + 1)).toList ++ (first.toList ++
    (rest.flatMap (style.separated (depth + 1)) ++
      ((style.lineBreak depth).toList ++ closing.toList)))

theorem toList_bracket_cons (style : Style) (depth : Nat) (opening closing first : String)
    (rest : List String) :
    (style.bracket depth opening closing (first :: rest)).toList =
      opening.toList ++ style.inside depth closing first rest := by
  simp only [bracket, inside, String.toList_append, toList_intercalate_cons, List.append_assoc]

theorem comma_inside (style : Style) (depth : Nat) (closing first : String) (rest : List String) :
    ',' :: style.inside depth closing first rest =
      (first :: rest).flatMap (style.separated (depth + 1)) ++
        ((style.lineBreak depth).toList ++ closing.toList) := by
  simp [inside, separated]

-- A break is empty or begins with a line break.
theorem lineBreak_append_ne {style : Style} {depth : Nat} {stop : Char} {rest more : List Char}
    (visible : stop ≠ '\n') (apart : rest ≠ stop :: more) :
    (style.lineBreak depth).toList ++ rest ≠ stop :: more := by
  cases style with
  | compact => simpa [lineBreak] using apart
  | pretty => simp [lineBreak, Ne.symm visible]

section Brackets

variable {α : Type} {write : α → String} {items : List α} {stop : Char}

-- With a comma in front of the first member too, the members are a list up to the closing bracket.
theorem readable_separated (style : Style) (depth : Nat) {closing : String}
    (closes : closing.toList = [stop]) (bracket : stop = ']' ∨ stop = '\x7d')
    (each : ∀ a ∈ items, Text.Readable Text.NoDigit (fun a => (write a).toList) a) :
    Text.Readable Text.Anything
      (fun items => items.flatMap (fun a => style.separated (depth + 1) (write a)) ++
        ((style.lineBreak depth).toList ++ closing.toList)) items := by
  apply Text.Readable.list Text.NoDigit
  · intro a member b rest more first second same
    simp only [separated, List.cons_append, List.append_assoc, List.cons.injEq, true_and] at same
    exact each a member b rest more first second (List.append_cancel_left same)
  · intro a rest
    exact Text.noDigit_cons rfl _
  · intro rest
    rw [closes]
    cases style with
    | compact => rcases bracket with rfl | rfl <;> exact Text.noDigit_cons rfl _
    | pretty =>
        simp only [lineBreak, String.toList_ofList]
        exact Text.noDigit_cons rfl _
  · intro a rest more
    rw [closes, List.append_assoc]
    apply Ne.symm
    apply lineBreak_append_ne (by decide)
    rcases bracket with rfl | rfl <;> simp

/-- Members between brackets are readable if each is in front of what is no digit, and if none begins
with the closing bracket, so that no member and one member are told apart. -/
theorem readable_bracket (style : Style) (depth : Nat) (opening closing : String)
    (closes : closing.toList = [stop]) (bracket : stop = ']' ∨ stop = '\x7d')
    (begins : ∀ a rest more, (write a).toList ++ rest ≠ stop :: more)
    (each : ∀ a ∈ items, Text.Readable Text.NoDigit (fun a => (write a).toList) a) :
    Text.Readable Text.Anything
      (fun items => (style.bracket depth opening closing (items.map write)).toList) items := by
  have visible : stop ≠ '\n' := by rcases bracket with rfl | rfl <;> decide
  have some_ne_none : ∀ b others rest more,
      (style.bracket depth opening closing ((b :: others).map write)).toList ++ rest ≠
        (style.bracket depth opening closing []).toList ++ more := by
    intro b others rest more same
    rw [List.map_cons, toList_bracket_cons, Style.bracket, String.toList_append, List.append_assoc,
      List.append_assoc, closes] at same
    have behind := List.append_cancel_left same
    rw [inside, List.append_assoc, List.append_assoc] at behind
    exact lineBreak_append_ne visible (begins b _ _) behind
  intro others rest more _ _ same
  cases items with
  | nil =>
      cases others with
      | nil => exact ⟨rfl, List.append_cancel_left same⟩
      | cons b others => exact absurd same.symm (some_ne_none b others more rest)
  | cons a items =>
      cases others with
      | nil => exact absurd same (some_ne_none a items rest more)
      | cons b others =>
          simp only [List.map_cons, toList_bracket_cons, List.append_assoc] at same
          have commas := congrArg (',' :: ·) (List.append_cancel_left same)
          simp only [← List.cons_append, comma_inside, ← List.map_cons, List.flatMap_map] at commas
          exact readable_separated style depth closes bracket each (b :: others) rest more trivial
            trivial commas

end Brackets

end Style

inductive Tree where
  | string (s : String)
  | natural (n : Nat)
  | list (items : List Tree)
  | record (fields : List (String × Tree))

namespace Tree

mutual

def write (style : Style) (depth : Nat) : Tree → String
  | .string s => Json.string s
  | .natural n => Json.natural n
  | .list items => style.list depth (writeItems style (depth + 1) items)
  | .record fields => style.record depth (writeFields style (depth + 1) fields)

def writeItems (style : Style) (depth : Nat) : List Tree → List String
  | [] => []
  | item :: rest => write style depth item :: writeItems style depth rest

def writeFields (style : Style) (depth : Nat) : List (String × Tree) → List (String × String)
  | [] => []
  | (name, value) :: rest => (name, write style depth value) :: writeFields style depth rest

end

theorem memberwise {motive : Tree → Prop} (string : ∀ s, motive (.string s))
    (natural : ∀ n, motive (.natural n))
    (list : ∀ items, (∀ item ∈ items, motive item) → motive (.list items))
    (record : ∀ fields, (∀ field ∈ fields, motive field.2) → motive (.record fields)) (t : Tree) :
    motive t := by
  refine @Tree.rec motive (fun items => ∀ item ∈ items, motive item)
    (fun fields => ∀ field ∈ fields, motive field.2) (fun field => motive field.2)
    string natural list record ?_ ?_ ?_ ?_ ?_ t
  · intro item member
    cases member
  · intro first rest one others
    exact List.forall_mem_cons.mpr ⟨one, others⟩
  · intro field member
    cases member
  · intro first rest one others
    exact List.forall_mem_cons.mpr ⟨one, others⟩
  · intro name value holds
    exact holds

theorem writeItems_eq (style : Style) (depth : Nat) (items : List Tree) :
    writeItems style depth items = items.map (write style depth) := by
  induction items with
  | nil => rfl
  | cons item rest ih => rw [writeItems, ih, List.map_cons]

theorem writeFields_eq (style : Style) (depth : Nat) (fields : List (String × Tree)) :
    writeFields style depth fields =
      fields.map fun field => (field.1, write style depth field.2) := by
  induction fields with
  | nil => rfl
  | cons field rest ih => rw [writeFields, ih, List.map_cons]

def writeField (style : Style) (depth : Nat) (field : String × Tree) : String :=
  Json.string field.1 ++ style.colon ++ write style depth field.2

theorem write_list (style : Style) (depth : Nat) (items : List Tree) :
    write style depth (.list items) =
      style.bracket depth "[" "]" (items.map (write style (depth + 1))) := by
  rw [write, writeItems_eq, Style.list]

theorem write_record (style : Style) (depth : Nat) (fields : List (String × Tree)) :
    write style depth (.record fields) =
      style.bracket depth "\x7b" "\x7d" (fields.map (writeField style (depth + 1))) := by
  rw [write, writeFields_eq, Style.record, List.map_map]
  rfl

inductive Shape where
  | string
  | natural
  | list
  | record

def shape : Tree → Shape
  | .string _ => .string
  | .natural _ => .natural
  | .list _ => .list
  | .record _ => .record

def shape? (c : Char) : Option Shape :=
  if c = '"' then some .string
  else if c = '[' then some .list
  else if c = '\x7b' then some .record
  else if c.isDigit then some .natural
  else none

theorem bracket_begins (style : Style) (depth : Nat) (opening closing : String)
    (members : List String) :
    opening.toList <+: (style.bracket depth opening closing members).toList := by
  cases members with
  | nil => simp [Style.bracket]
  | cons first rest =>
      rw [Style.toList_bracket_cons]
      exact List.prefix_append _ _

theorem begins (style : Style) (depth : Nat) (t : Tree) :
    ∃ c rest, (write style depth t).toList = c :: rest ∧ shape? c = some t.shape := by
  cases t with
  | string s => exact ⟨'"', _, by rw [write, Json.string, String.toList_ofList], rfl⟩
  | natural n =>
      rw [write, Json.natural, Nat.toList_repr]
      obtain ⟨c, rest, same⟩ := List.exists_cons_of_ne_nil (Nat.toDigits_ne_nil (b := 10) (n := n))
      have digit := Numeral.allDigits_toDigits n c (by simp [same])
      refine ⟨c, rest, same, ?_⟩
      simp [shape?, shape, Numeral.digit_ne digit, digit]
  | list items =>
      rw [write_list]
      obtain ⟨rest, same⟩ := bracket_begins style depth "[" "]" (items.map (write style (depth + 1)))
      exact ⟨'[', rest, same.symm, rfl⟩
  | record fields =>
      rw [write_record]
      obtain ⟨rest, same⟩ := bracket_begins style depth "\x7b" "\x7d"
        (fields.map (writeField style (depth + 1)))
      exact ⟨'\x7b', rest, same.symm, rfl⟩

theorem shape_eq {style : Style} {depth : Nat} {t u : Tree} {rest more : List Char}
    (same : (write style depth t).toList ++ rest = (write style depth u).toList ++ more) :
    t.shape = u.shape := by
  obtain ⟨c, behind, first, mine⟩ := begins style depth t
  obtain ⟨d, after, second, other⟩ := begins style depth u
  rw [first, second, List.cons_append, List.cons_append, List.cons.injEq] at same
  rw [same.1, other] at mine
  exact (Option.some.inj mine).symm

-- No text of a tree begins with a bracket that closes.
theorem write_ne_bracket {style : Style} {depth : Nat} {stop : Char}
    (bracket : stop = ']' ∨ stop = '\x7d') (t : Tree) (rest more : List Char) :
    (write style depth t).toList ++ rest ≠ stop :: more := by
  obtain ⟨c, behind, first, mine⟩ := begins style depth t
  rw [first, List.cons_append]
  intro same
  rw [(List.cons.inj same).1] at mine
  rcases bracket with rfl | rfl <;> cases mine

theorem readable_field {style : Style} {depth : Nat} {field : String × Tree}
    (value : Text.Readable Text.NoDigit (fun t => (write style depth t).toList) field.2) :
    Text.Readable Text.NoDigit (fun field => (writeField style depth field).toList) field := by
  intro other rest more first second same
  simp only [writeField, String.toList_append, List.append_assoc] at same
  obtain ⟨names, behind⟩ := readable_string field.1 other.1 _ _ trivial trivial same
  obtain ⟨values, tail⟩ :=
    value other.2 rest more first second (List.append_cancel_left behind)
  exact ⟨Prod.ext names values, tail⟩

/-- The text of a tree gives the tree back, in front of anything that does not go on with a digit. -/
theorem readable (style : Style) (t : Tree) :
    ∀ depth, Text.Readable Text.NoDigit (fun t => (write style depth t).toList) t := by
  induction t using memberwise with
  | string s =>
      intro depth u rest more _ _ same
      have kind := shape_eq same
      cases u with
      | string other =>
          simp only [write] at same
          obtain ⟨rfl, tail⟩ := readable_string s other rest more trivial trivial same
          exact ⟨rfl, tail⟩
      | _ => cases kind
  | natural n =>
      intro depth u rest more first second same
      have kind := shape_eq same
      cases u with
      | natural other =>
          simp only [write, Json.natural, Nat.toList_repr] at same
          obtain ⟨rfl, tail⟩ := Text.readable_numeral n other rest more first second same
          exact ⟨rfl, tail⟩
      | _ => cases kind
  | list items ih =>
      intro depth u rest more _ _ same
      have kind := shape_eq same
      cases u with
      | list others =>
          simp only [write_list] at same
          have members := Style.readable_bracket style depth "[" "]" rfl (Or.inl rfl)
            (write_ne_bracket (Or.inl rfl)) (fun item member => ih item member (depth + 1))
          obtain ⟨rfl, tail⟩ := members others rest more trivial trivial same
          exact ⟨rfl, tail⟩
      | _ => cases kind
  | record fields ih =>
      intro depth u rest more _ _ same
      have kind := shape_eq same
      cases u with
      | record others =>
          simp only [write_record] at same
          have begins : ∀ (field : String × Tree) rest more,
              (writeField style (depth + 1) field).toList ++ rest ≠ '\x7d' :: more := by
            intro field rest more
            simp [writeField, Json.string]
          have members := Style.readable_bracket style depth "\x7b" "\x7d" rfl (Or.inr rfl)
            begins (fun field member => readable_field (ih field member (depth + 1)))
          obtain ⟨rfl, tail⟩ := members others rest more trivial trivial same
          exact ⟨rfl, tail⟩
      | _ => cases kind

theorem write_injective (style : Style) (depth : Nat) {t u : Tree}
    (same : write style depth t = write style depth u) : t = u := by
  have ends : Text.NoDigit [] := by
    intro c member
    cases member
  have chars : (write style depth t).toList ++ [] = (write style depth u).toList ++ [] := by rw [same]
  exact (readable style t depth u [] [] ends ends chars).1

end Tree
end CaptureProbe.Json
