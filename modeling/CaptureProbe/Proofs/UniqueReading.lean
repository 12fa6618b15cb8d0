import CaptureProbe.Proofs.NumeralText

/-!
Texts that can be read in one way only. Something that was written is readable in front of what may
follow it if its end can be found without knowing what it was: then a longer text gives back both it
and the rest. Numbers need a rest that does not begin with another digit; lists of readable things
need an end that is not taken for one more of them.
-/

namespace CaptureProbe.Text

def Anything (_ : List Char) : Prop := True

def NoDigit (rest : List Char) : Prop := ∀ c ∈ rest.head?, c.isDigit = false

/-- What is written for `a` is not to be taken for anything else, nor for a part of what follows. -/
def Readable {α : Type} (follows : List Char → Prop) (write : α → List Char) (a : α) : Prop :=
  ∀ b rest more, follows rest → follows more → write a ++ rest = write b ++ more →
    a = b ∧ rest = more

theorem readable_of_reader {α : Type} {follows : List Char → Prop} {write : α → List Char}
    (read : List Char → Option (α × List Char))
    (back : ∀ a rest, follows rest → read (write a ++ rest) = some (a, rest)) (a : α) :
    Readable follows write a := by
  intro b rest more first second same
  have both := back a rest first
  rw [same, back b more second] at both
  simpa [eq_comm] using both

theorem noDigit_cons {c : Char} (other : c.isDigit = false) (rest : List Char) :
    NoDigit (c :: rest) := by
  rintro _ ⟨⟩
  exact other

def readNumeral (cs : List Char) : Option (Nat × List Char) :=
  some (Numeral.digitsValue (cs.takeWhile Char.isDigit), cs.dropWhile Char.isDigit)

theorem span_digits {whole rest : List Char} (digits : Numeral.AllDigits whole) (ends : NoDigit rest) :
    (whole ++ rest).takeWhile Char.isDigit = whole ∧
      (whole ++ rest).dropWhile Char.isDigit = rest := by
  rw [List.takeWhile_append_of_pos digits, List.dropWhile_append_of_pos digits]
  cases rest with
  | nil => simp
  | cons c rest =>
      have other := ends c rfl
      simp [other]

theorem readable_numeral (n : Nat) : Readable NoDigit (Nat.toDigits 10) n := by
  apply readable_of_reader readNumeral
  intro n rest ends
  obtain ⟨taken, left⟩ := span_digits (Numeral.allDigits_toDigits n) ends
  rw [readNumeral, taken, left, Numeral.digitsValue_toDigits]

/-- A list is readable up to its end if each member is readable in front of the next. -/
theorem Readable.list {α : Type} (follows : List Char → Prop) {write : α → List Char}
    {stop : List Char} {items : List α} (each : ∀ a ∈ items, Readable follows write a)
    (next : ∀ a rest, follows (write a ++ rest)) (last : ∀ rest, follows (stop ++ rest))
    (apart : ∀ a rest more, write a ++ rest ≠ stop ++ more) :
    Readable Anything (fun items => items.flatMap write ++ stop) items := by
  -- what comes after a member is the next member or the end, and either may follow it
  have begins : ∀ (others : List α) rest, follows (others.flatMap write ++ stop ++ rest) := by
    intro others rest
    cases others with
    | nil => exact last rest
    | cons a others =>
        simp only [List.flatMap_cons, List.append_assoc]
        exact next a _
  intro others rest more _ _ same
  induction items generalizing others with
  | nil =>
      cases others with
      | nil => exact ⟨rfl, List.append_cancel_left same⟩
      | cons b others =>
          simp only [List.flatMap_nil, List.nil_append, List.flatMap_cons, List.append_assoc] at same
          exact absurd same.symm (apart b _ _)
  | cons a items ih =>
      cases others with
      | nil =>
          simp only [List.flatMap_nil, List.nil_append, List.flatMap_cons, List.append_assoc] at same
          exact absurd same (apart a _ _)
      | cons b others =>
          simp only [List.flatMap_cons, List.append_assoc] at same
          simp only [← List.append_assoc _ stop] at same
          obtain ⟨rfl, tail⟩ :=
            each a List.mem_cons_self b _ _ (begins items rest) (begins others more) same
          obtain ⟨rfl, behind⟩ :=
            ih (fun later member => each later (List.mem_cons_of_mem _ member)) others tail
          exact ⟨rfl, behind⟩

end CaptureProbe.Text
