import CaptureProbe.Proofs.UniqueReading
import CaptureProbe.Statistics

/-!
The text of the statistics, read back. Each count stands on a line of its own behind a caption, and no
caption can be taken for the front of another one, so a count is found on the first line that begins
with its caption. Receivers come behind all counts: they are printed as anything, line breaks and
captions included, and hide nothing.
-/

namespace CaptureProbe

namespace Text

/-- What stands behind a caption on the first line that begins with it. A line may begin here only if
`begins` is set. -/
def behind? (caption : List Char) : Bool → List Char → Option (List Char)
  | _, [] => none
  | begins, c :: rest =>
    if begins && caption.isPrefixOf (c :: rest) then some ((c :: rest).drop caption.length)
    else behind? caption (c == '\n') rest

def field? (caption text : String) : Option (String × String) :=
  (behind? caption.toList true text.toList).map fun rest =>
    (String.ofList (rest.takeWhile (· != '\n')), String.ofList ((rest.dropWhile (· != '\n')).drop 1))

def shown? (caption text : String) : Option String := (field? caption text).map Prod.fst

variable {caption line rest : List Char}

theorem behind?_inside (plain : '\n' ∉ line) :
    behind? caption false (line ++ '\n' :: rest) = behind? caption true rest := by
  induction line with
  | nil => rfl
  | cons c tail ih =>
      have other : (c == '\n') = false := by
        rw [beq_eq_false_iff_ne]
        rintro rfl
        exact plain List.mem_cons_self
      rw [List.cons_append, behind?, Bool.false_and, if_neg Bool.false_ne_true, other]
      exact ih fun member => plain (List.mem_cons_of_mem _ member)

theorem behind?_of_not_isPrefix {text : List Char} (other : ¬ caption <+: text) :
    behind? caption true text = behind? caption false text := by
  rw [← List.isPrefixOf_iff_prefix] at other
  cases text with
  | nil => rfl
  | cons c tail =>
      rw [behind?, behind?, Bool.true_and, if_neg other, Bool.false_and, if_neg Bool.false_ne_true]

theorem behind?_line (plain : '\n' ∉ line) (other : ¬ caption <+: line ++ '\n' :: rest) :
    behind? caption true (line ++ '\n' :: rest) = behind? caption true rest :=
  (behind?_of_not_isPrefix other).trans (behind?_inside plain)

theorem behind?_found (some_ : caption ≠ []) (rest : List Char) :
    behind? caption true (caption ++ rest) = some rest := by
  cases caption with
  | nil => exact absurd rfl some_
  | cons c tail =>
      have front : (c :: tail).isPrefixOf (c :: (tail ++ rest)) = true :=
        List.isPrefixOf_iff_prefix.mpr (List.prefix_append (c :: tail) rest)
      rw [List.cons_append, behind?, Bool.true_and, if_pos front, ← List.cons_append, List.drop_left]

theorem field?_of_behind {caption text line rest : String} (plain : '\n' ∉ line.toList)
    (found : behind? caption.toList true text.toList = some (line.toList ++ '\n' :: rest.toList)) :
    field? caption text = some (line, rest) := by
  have inside : ∀ c ∈ line.toList, (c != '\n') = true := by
    intro c member
    rw [bne_iff_ne]
    rintro rfl
    exact plain member
  rw [field?, found, Option.map_some, List.takeWhile_append_of_pos inside,
    List.dropWhile_append_of_pos inside]
  simp

theorem newline_not_mem_repr (n : Nat) : '\n' ∉ (Nat.repr n).toList := by
  rw [Nat.toList_repr]
  intro member
  have digit := Numeral.allDigits_toDigits n '\n' member
  exact absurd digit (by decide)

end Text

namespace Statistics

structure Row where
  caption : String
  count : Option Nat := none

def Row.text (row : Row) : String :=
  match row.count with
  | none => row.caption
  | some n => row.caption ++ Nat.repr n

def Row.line (row : Row) : String := row.text ++ "\n"

def rows (g : CallGraph) (t : Trace) : List Row :=
  [⟨"##########################################################", none⟩,
    ⟨"Call Graph Statistics:", none⟩,
    ⟨"#Functions: ", g.nodeCount⟩,
    ⟨"#Closures created: ", closureCount g⟩,
    ⟨"#Call graph edges: ", g.edgeCount⟩]
    ++ CallType.all.map (fun callType =>
      ⟨"  #" ++ callType.display ++ " calls: ", g.edgeCountOf callType⟩)
    ++ [⟨"Observation Statistics:", none⟩,
      ⟨"#Observations: ", t.length⟩,
      ⟨"#Emitted lines: ", t.emitted.length⟩,
      ⟨"#Distinct emitted values: ", distinctEmitted t⟩]

def receiverText (t : Trace) (callType : CallType) : String :=
  String.join ((t.receivers callType).map fun v =>
    "Receiver of " ++ callType.display ++ " call: " ++ v.line)

theorem join_receiverLines (t : Trace) (callType : CallType) :
    String.join (receiverLines t callType) = receiverText t callType := by
  rw [receiverLines, receiverText]
  induction t.receivers callType with
  | nil => rfl
  | cons v rest ih =>
      rw [List.flatMap_cons, String.join_append, ih, List.map_cons, String.join_cons]
      simp [receiverLine, Value.linePieces, Value.line, Value.display, String.append_assoc]

theorem report_eq (g : CallGraph) (t : Trace) :
    report g t = String.join ((rows g t).map Row.line) ++
      (receiverText t .method ++ receiverText t .explicit ++ rule) := by
  have top : rule = "##########################################################\n" := rfl
  simp [report, pieces, rows, countLine, callLine, CallType.all, Row.line, Row.text,
    join_receiverLines, String.append_assoc, top]

/-- Captions are single pieces of a line, and none of them is the front of another. -/
theorem captions_apart (g : CallGraph) (t : Trace) :
    (∀ row ∈ rows g t, row.caption.toList ≠ [] ∧ '\n' ∉ row.caption.toList) ∧
      (rows g t).Pairwise fun a b =>
        ¬ a.caption.toList <+: b.caption.toList ∧ ¬ b.caption.toList <+: a.caption.toList := by
  -- the captions are the same whatever is counted
  have same : (rows g t).map Row.caption = (rows .empty .empty).map Row.caption := rfl
  have plain : ∀ caption ∈ (rows .empty .empty).map Row.caption,
      caption.toList ≠ [] ∧ '\n' ∉ caption.toList := by decide +kernel
  have apart : ((rows .empty .empty).map Row.caption).Pairwise fun a b =>
      ¬ a.toList <+: b.toList ∧ ¬ b.toList <+: a.toList := by decide +kernel
  rw [← same] at plain apart
  exact ⟨fun row member => plain _ (List.mem_map_of_mem member), List.pairwise_map.mp apart⟩

theorem newline_not_mem_text {row : Row} (plain : '\n' ∉ row.caption.toList) :
    '\n' ∉ row.text.toList := by
  unfold Row.text
  split
  · exact plain
  · rw [String.toList_append, List.mem_append, not_or]
    exact ⟨plain, Text.newline_not_mem_repr _⟩

theorem Row.caption_isPrefix (row : Row) : row.caption.toList <+: row.text.toList := by
  unfold Row.text
  split
  · exact List.prefix_refl _
  · rw [String.toList_append]
    exact List.prefix_append _ _

-- Rows whose captions are no fronts of the one looked for, nor it of theirs, are passed over.
theorem behind?_rows {caption : List Char} (before : List Row)
    (plain : ∀ row ∈ before, '\n' ∉ row.caption.toList)
    (apart : ∀ row ∈ before, ¬ row.caption.toList <+: caption ∧ ¬ caption <+: row.caption.toList)
    (rest : List Char) :
    Text.behind? caption true ((String.join (before.map Row.line)).toList ++ rest) =
      Text.behind? caption true rest := by
  induction before with
  | nil => rfl
  | cons row tail ih =>
      have later := ih (fun other member => plain other (List.mem_cons_of_mem _ member))
        fun other member => apart other (List.mem_cons_of_mem _ member)
      obtain ⟨longer, shorter⟩ := apart row List.mem_cons_self
      have text := newline_not_mem_text (plain row List.mem_cons_self)
      rw [List.map_cons, String.join_cons, String.toList_append, Row.line, String.toList_append,
        List.append_assoc, List.append_assoc]
      refine (Text.behind?_line text ?_).trans later
      intro front
      -- both captions are fronts of one text, so one of them is the front of the other
      rcases List.prefix_or_prefix_of_prefix
        (row.caption_isPrefix.trans (List.prefix_append _ _)) front with own | other
      · exact longer own
      · exact shorter other

theorem field?_report {g : CallGraph} {t : Trace} {before after : List Row} {caption : String}
    {n : Nat} (split : rows g t = before ++ ⟨caption, n⟩ :: after) :
    Text.field? caption (report g t) = some (Nat.repr n, String.join (after.map Row.line) ++
      (receiverText t .method ++ receiverText t .explicit ++ rule)) := by
  obtain ⟨plain, apart⟩ := captions_apart g t
  rw [split] at plain apart
  have earlier : ∀ other ∈ before, other ∈ before ++ ⟨caption, n⟩ :: after :=
    fun other member => List.mem_append_left _ member
  have others : ∀ other ∈ before, _ := fun other member =>
    (List.pairwise_append.mp apart).2.2 other member _ List.mem_cons_self
  have own := (plain _ (List.mem_append_right _ List.mem_cons_self)).1
  apply Text.field?_of_behind (Text.newline_not_mem_repr n)
  rw [report_eq, split, List.map_append, String.join_append, List.map_cons, String.join_cons,
    String.toList_append, String.toList_append, List.append_assoc,
    behind?_rows before (fun other member => (plain other (earlier other member)).2) others]
  simp only [Row.line, Row.text, String.toList_append, List.append_assoc]
  rw [Text.behind?_found own]
  rfl

theorem shown?_report {g : CallGraph} {t : Trace} {caption : String} {n : Nat}
    (member : ⟨caption, n⟩ ∈ rows g t) : Text.shown? caption (report g t) = some (Nat.repr n) := by
  obtain ⟨before, after, split⟩ := List.append_of_mem member
  rw [Text.shown?, field?_report split]
  rfl

end Statistics
end CaptureProbe
