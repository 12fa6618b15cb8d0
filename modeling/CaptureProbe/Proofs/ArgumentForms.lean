import CaptureProbe.Options.Argument

/-!
How the arguments are spelled that mean something. An option, a flag and a value each have one
spelling, and an argument is taken for one of them exactly when it is spelled so.
-/

namespace CaptureProbe.Options

/-- A text that can be a value where options may stand: it does not begin with a dash, or is a lone
dash, or has a numeral right behind its only leading dash. -/
def IsPlain (token : String) : Prop :=
  token.toList.head? ≠ some '-' ∨ token = "-" ∨
    ∃ rest, token.toList = '-' :: rest ∧ rest.head? ≠ some '-' ∧ (Numeral.read? rest).isSome = true

namespace Argument

def spelling? : Argument → Option String
  | .assigned s value => some ("--" ++ s.name ++ "=" ++ value)
  | .named s => some ("--" ++ s.name)
  | .flag f => some ("--" ++ f.name)
  | .plain text => some text
  | _ => none

theorem ofName_setting (s : Setting) : ofName s.name = .named s := by
  cases s <;> decide

theorem classify_named (s : Setting) : classify ("--" ++ s.name) = .named s := by
  cases s <;> decide

theorem classify_flag (f : Flag) : classify ("--" ++ f.name) = .flag f := by
  cases f <;> decide

theorem classify_assigned (s : Setting) (value : String) :
    classify ("--" ++ s.name ++ "=" ++ value) = .assigned s value := by
  have named := ofName_setting s
  cases s <;> simp_all [classify, Setting.name, ofLong, assign]

theorem spelling_ofName {name text : String} (spelled : (ofName name).spelling? = some text) :
    text = "--" ++ name := by
  unfold ofName at spelled
  split at spelled
  · rename_i s _ found
    have same := List.find?_some found
    simp_all [spelling?]
  · rename_i f _ found
    have same := List.find?_some found
    simp_all [spelling?]
  · split at spelled
    · cases spelled
    · split at spelled <;> cases spelled

theorem ofName_ne_plain (name text : String) : ofName name ≠ .plain text := by
  unfold ofName
  split
  · simp
  · simp
  · split
    · simp
    · split <;> simp

theorem name_of_ofName {name : String} {s : Setting} (named : ofName name = .named s) :
    s.name = name := by
  have spelled : (ofName name).spelling? = some ("--" ++ s.name) := by
    rw [named]
    rfl
  exact (String.append_right_inj "--").mp (spelling_ofName spelled)

theorem spelling_ofLong {cs : List Char} {text : String}
    (spelled : (ofLong cs).spelling? = some text) : text = "--" ++ String.ofList cs := by
  have whole := cs.takeWhile_append_dropWhile (p := (· ≠ '='))
  unfold ofLong at spelled
  cases dropped : cs.dropWhile (· ≠ '=') with
  | nil =>
      rw [dropped] at whole spelled
      rw [List.append_nil] at whole
      rw [spelling_ofName spelled, whole]
  | cons c value =>
      -- the name ends at the first equals sign, so that is what the rest begins with
      have equals : c = '=' := by
        have first := List.head?_dropWhile_not (· ≠ '=') cs
        rw [dropped] at first
        simpa using first
      rw [dropped] at whole spelled
      dsimp only at spelled
      cases named : ofName (String.ofList (cs.takeWhile (· ≠ '='))) with
      | named s =>
          rw [named] at spelled
          have same := congrArg String.toList (name_of_ofName named)
          have given : "--" ++ s.name ++ "=" ++ String.ofList value = text := Option.some.inj spelled
          rw [← given, ← String.toList_inj, ← whole, equals]
          simp only [String.toList_append, String.toList_ofList, same]
          simp
      | _ =>
          rw [named] at spelled
          cases spelled

theorem assign_ne_plain (name value text : String) (a : Argument) :
    assign name value a ≠ .plain text := by
  cases a <;> simp [assign]

theorem ofLong_ne_plain (cs : List Char) (text : String) : ofLong cs ≠ .plain text := by
  unfold ofLong
  split
  · exact ofName_ne_plain _ _
  · exact assign_ne_plain _ _ _ _

theorem ofShort_plain_iff (c : Char) (rest : List Char) (text : String) :
    ofShort c rest = .plain text ↔
      text = String.ofList ('-' :: c :: rest) ∧ (Numeral.read? (c :: rest)).isSome = true := by
  unfold ofShort
  by_cases numeral : (Numeral.read? (c :: rest)).isSome = true
  · simp [numeral, eq_comm]
  · rw [if_neg numeral]
    split
    · simp [numeral]
    · split <;> simp [numeral]

theorem spelling_ofShort {c : Char} {rest : List Char} {text : String}
    (spelled : (ofShort c rest).spelling? = some text) : text = String.ofList ('-' :: c :: rest) := by
  unfold ofShort at spelled
  split at spelled
  · exact (Option.some.inj spelled).symm
  · split at spelled
    · cases spelled
    · split at spelled <;> cases spelled

theorem spelling_classify {token text : String}
    (spelled : (classify token).spelling? = some text) : text = token := by
  rw [← String.toList_inj]
  unfold classify at spelled
  split at spelled
  · rename_i rest long
    rw [spelling_ofLong spelled, long]
    simp
  · rename_i c rest _ short
    rw [spelling_ofShort spelled, short]
    simp
  · rw [Option.some.inj spelled]

theorem classify_plain_iff (token text : String) :
    classify token = .plain text ↔ text = token ∧ IsPlain token := by
  unfold classify IsPlain
  split
  · rename_i rest long
    have lone : token ≠ "-" := by
      rintro rfl
      cases long
    simp [ofLong_ne_plain, long, lone]
  · rename_i c rest single short
    have dash : c ≠ '-' := single
    have lone : token ≠ "-" := by
      rintro rfl
      cases short
    have whole : String.ofList ('-' :: c :: rest) = token := by
      rw [← short, String.ofList_toList]
    simp [ofShort_plain_iff, short, dash, lone, whole]
  · rename_i long short
    -- neither pattern fits, so a leading dash has nothing behind it
    have free : token.toList.head? ≠ some '-' ∨ token = "-" := by
      match chars : token.toList with
      | [] => exact Or.inl (by simp)
      | [c] =>
          by_cases dash : c = '-'
          · rw [dash] at chars
            exact Or.inr (String.toList_inj.mp chars)
          · exact Or.inl (by simp [dash])
      | c :: d :: rest =>
          refine Or.inl ?_
          rw [List.head?_cons, Ne, Option.some.injEq]
          rintro rfl
          exact short d rest chars
    constructor
    · intro same
      exact ⟨(Argument.plain.inj same).symm, free.imp_right Or.inl⟩
    · rintro ⟨rfl, -⟩
      rfl

end Argument
end CaptureProbe.Options
