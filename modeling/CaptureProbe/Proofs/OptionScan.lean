import Mathlib.Data.List.Nodup
import CaptureProbe.Proofs.OptionItems

/-!
The machine that reads option lists goes from left to right with one option pending, and looks for
missing values and repetitions at the end. What it takes are items: that rests on one fact, that an
option which is settled without a value is never forgiven.
-/

namespace CaptureProbe.Options

theorem map_eq_ok_iff {ε α β : Type} {f : α → β} {x : Except ε α} {b : β} :
    x.map f = .ok b ↔ ∃ a, x = .ok a ∧ f a = b := by
  cases x <;> simp [Except.map]

namespace Scan

theorem check_eq_ok_iff (s : Setting) (value : String) :
    check s (some value) = .ok () ↔
      (s = .mode → value ∈ modeNames) := by
  rw [← read?_isSome_iff]
  cases s
  · simp only [check, forall_true_left]
    split <;> simp_all
  all_goals simp [check]

theorem check_of_given {item : Item} {s : Setting} {value : String} (mode : item.ModeExists)
    (given : item.valueOf? s = some value) : check s (some value) = .ok () := by
  rw [check_eq_ok_iff]
  rintro rfl
  exact mode value given

def counted (scan : Scan) : List Occurrence :=
  scan.found ++ scan.pending.toList.map fun option => .setting option.1 option.2

variable {scan next : Scan}

theorem settle_eq {settled : Scan} (ready : scan.settle = .ok settled) :
    settled = { scan with pending := none, found := scan.counted } := by
  obtain ⟨_ | ⟨s, value⟩, found, positionals⟩ := scan
  · cases ready
    simp [counted]
  · simp only [settle] at ready
    split at ready
    · cases ready
      simp [counted, count]
    · cases ready

inductive Takes (scan : Scan) (token : String) : Scan → Prop where
  | value {s : Setting} (waits : scan.pending = some (s, none)) (fits : s = .capture ∨ IsPlain token) :
      Takes scan token { scan with pending := some (s, some token) }
  | assigned {settled : Scan} {s : Setting} {value : String} (ready : scan.settle = .ok settled)
      (spelled : "--" ++ s.name ++ "=" ++ value = token) (checked : check s (some value) = .ok ()) :
      Takes scan token (settled.count (.setting s (some value)))
  | named {settled : Scan} {s : Setting} (ready : scan.settle = .ok settled)
      (spelled : "--" ++ s.name = token) :
      Takes scan token { settled with pending := some (s, none) }
  | flag {settled : Scan} {f : Flag} (ready : scan.settle = .ok settled)
      (spelled : "--" ++ f.name = token) : Takes scan token (settled.count (.flag f))
  | positional {settled : Scan} (ready : scan.settle = .ok settled) (plain : IsPlain token) :
      Takes scan token { settled with positionals := settled.positionals ++ [token] }

theorem takes_of_takePlain {token : String} (plain : IsPlain token)
    (taken : scan.takePlain token = .ok next) : Takes scan token next := by
  unfold takePlain at taken
  split at taken
  · rename_i s waits
    cases taken
    exact .value waits (Or.inr plain)
  · obtain ⟨settled, ready, rfl⟩ := map_eq_ok_iff.mp taken
    exact .positional ready plain

theorem takes_of_takeArgument {token : String}
    (taken : scan.takeArgument (Argument.classify token) = .ok next) : Takes scan token next := by
  have spelling (text : String) (same : (Argument.classify token).spelling? = some text) :=
    Argument.spelling_classify same
  cases look : Argument.classify token with
  | assigned s value =>
      rw [look] at taken
      simp only [takeArgument] at taken
      split at taken
      · rename_i settled ready
        obtain ⟨_, checked, rfl⟩ := map_eq_ok_iff.mp taken
        exact .assigned ready (spelling _ (by rw [look]; rfl)) checked
      · cases taken
  | named s =>
      rw [look] at taken
      obtain ⟨settled, ready, rfl⟩ := map_eq_ok_iff.mp taken
      exact .named ready (spelling _ (by rw [look]; rfl))
  | flag f =>
      rw [look] at taken
      obtain ⟨settled, ready, rfl⟩ := map_eq_ok_iff.mp taken
      exact .flag ready (spelling _ (by rw [look]; rfl))
  | plain text =>
      obtain ⟨rfl, plain⟩ := (Argument.classify_plain_iff token text).mp look
      rw [look] at taken
      exact takes_of_takePlain plain taken
  | help long =>
      rw [look] at taken
      simp only [takeArgument] at taken
      split at taken <;> cases taken
  | version =>
      rw [look] at taken
      simp only [takeArgument] at taken
      split at taken <;> cases taken
  | surplus name value =>
      rw [look] at taken
      cases taken
  | unknown text =>
      rw [look] at taken
      cases taken

theorem takes_of_take {token : String} (taken : scan.take token = .ok next) :
    Takes scan token next := by
  unfold take at taken
  split at taken
  · rename_i waits
    cases taken
    exact .value waits (Or.inl rfl)
  · exact takes_of_takeArgument taken

-- Counting each switch that was found is enough, as one that was not found appears zero times.
theorem once_iff (found : List Occurrence) :
    (∀ o ∈ found, (found.filter (·.switch == o.switch)).length ≤ 1) ↔
      (found.map Occurrence.switch).Nodup := by
  have counts (w : Switch) :
      (found.filter (·.switch == w)).length = (found.map Occurrence.switch).count w := by
    rw [List.count, List.countP_map, List.countP_eq_length_filter]
    rfl
  rw [List.nodup_iff_count_le_one]
  constructor
  · intro once w
    by_cases member : w ∈ found.map Occurrence.switch
    · obtain ⟨o, appears, rfl⟩ := List.mem_map.mp member
      rw [← counts]
      exact once o appears
    · rw [List.count_eq_zero_of_not_mem member]
      exact Nat.zero_le 1
  · intro once o _
    rw [counts]
    exact once o.switch

theorem value?_isSome_iff (scan : Scan) (s : Setting) :
    (scan.value? s).isSome = true ↔ ∃ value, .setting s (some value) ∈ scan.found := by
  rw [value?, List.findSome?_isSome_iff]
  constructor
  · rintro ⟨o, member, given⟩
    cases o with
    | flag f => cases given
    | setting t value =>
        by_cases same : t = s
        · simp only [Occurrence.valueOf?, same, if_true] at given
          obtain ⟨text, rfl⟩ := Option.isSome_iff_exists.mp given
          exact ⟨text, same ▸ member⟩
        · simp [Occurrence.valueOf?, same] at given
  · rintro ⟨value, member⟩
    exact ⟨_, member, by simp [Occurrence.valueOf?]⟩

theorem fault?_eq_none_iff (scan : Scan) (o : Occurrence) :
    scan.fault? o = none ↔
      (∀ s value, o = .setting s value → (scan.value? s).isSome = true) ∧
        (scan.found.filter (·.switch == o.switch)).length ≤ 1 := by
  cases o with
  | flag f => simp [fault?]
  | setting s value =>
      cases given : scan.value? s with
      | none => simp [fault?, given]
      | some text => simp [fault?, given, Option.isSome_iff_exists]

theorem faultless_iff (scan : Scan) :
    (∀ o ∈ scan.found, scan.fault? o = none) ↔
      (∀ s, .setting s none ∉ scan.found) ∧ (scan.found.map Occurrence.switch).Nodup := by
  simp only [fault?_eq_none_iff]
  constructor
  · intro faultless
    have once := (once_iff _).mp fun o member => (faultless o member).2
    refine ⟨?_, once⟩
    intro s member
    -- a value that the option has comes from another appearance of it
    have given := (faultless _ member).1 s none rfl
    obtain ⟨value, other⟩ := (scan.value?_isSome_iff s).mp given
    have same := List.inj_on_of_nodup_map once member other rfl
    cases same
  · rintro ⟨valued, once⟩ o member
    refine ⟨?_, (once_iff _).mpr once o member⟩
    rintro s (_ | text) rfl
    · exact absurd member (valued s)
    · exact (scan.value?_isSome_iff s).mpr ⟨text, member⟩

theorem waiting?_eq_none {settled : Scan} (ready : scan.settle = .ok settled)
    (valued : ∀ s, .setting s none ∉ settled.found) : waiting? scan settled = none := by
  unfold waiting?
  split
  · rename_i s waits
    refine absurd ?_ (valued s)
    rw [settle_eq ready]
    simp [counted, waits]
  · rfl

theorem finish_eq_ok_iff (complete : Scan) :
    scan.finish = .ok complete ↔ scan.settle = .ok complete ∧
      (∀ s, .setting s none ∉ complete.found) ∧ (complete.found.map Occurrence.switch).Nodup := by
  rw [← faultless_iff]
  unfold finish
  cases ready : scan.settle with
  | error refusal => simp
  | ok settled =>
      dsimp only
      constructor
      · intro done
        split at done
        · cases done
        · rename_i none_
          cases done
          exact ⟨rfl, List.findSome?_eq_none_iff.mp (Option.or_eq_none_iff.mp none_).2⟩
      · rintro ⟨same, faultless⟩
        cases same
        -- an option that waits at the end is among those that were settled without a value
        have waiting := waiting?_eq_none ready (complete.faultless_iff.mp faultless).1
        rw [waiting, List.findSome?_eq_none_iff.mpr faultless]
        rfl

def waiting (scan : Scan) : List String :=
  match scan.pending with
  | some (s, none) => ["--" ++ s.name]
  | _ => []

/-- What was counted so far, with an option that has its value but is not settled yet. -/
def answered (scan : Scan) : List Occurrence :=
  match scan.pending with
  | some (s, some value) => scan.found ++ [.setting s (some value)]
  | _ => scan.found

theorem found_subset_answered (scan : Scan) : scan.found ⊆ scan.answered := by
  unfold answered
  split
  · exact List.subset_append_left _ _
  · exact List.Subset.refl _

theorem closed_of_valued {settled : Scan} (ready : scan.settle = .ok settled)
    (valued : ∀ s, .setting s none ∉ settled.found) :
    scan.waiting = [] ∧ settled = ⟨none, scan.answered, scan.positionals⟩ := by
  have same := settle_eq ready
  obtain ⟨_ | ⟨s, _ | value⟩, found, positionals⟩ := scan
  · simpa [waiting, answered, counted] using same
  · refine absurd ?_ (valued s)
    simp [same, counted]
  · simpa [waiting, answered, counted] using same

/-- What a scan that goes on with some tokens ends with, in terms of items. An option that waits is
the beginning of the first item. -/
structure Cuts (scan : Scan) (tokens : List String) (complete : Scan) (items : List Item) : Prop where
  whole : items.flatMap Item.tokens = scan.waiting ++ tokens
  placed : ∀ item ∈ items, item.Placed
  found : complete.found = scan.answered ++ items.filterMap Item.occurrence?
  positionals : complete.positionals = scan.positionals ++ items.filterMap Item.positional?

theorem filterMap_cons_toList {α β : Type} (f : α → Option β) (a : α) (rest : List α) :
    (a :: rest).filterMap f = (f a).toList ++ rest.filterMap f := by
  cases given : f a <;> simp [given]

theorem Cuts.cons {complete : Scan} {token : String} {rest : List String} {items : List Item}
    (cuts : next.Cuts rest complete items) (item : Item) (placed : item.Placed)
    (whole : item.tokens ++ next.waiting = scan.waiting ++ [token])
    (found : next.answered = scan.answered ++ item.occurrence?.toList)
    (positionals : next.positionals = scan.positionals ++ item.positional?.toList) :
    scan.Cuts (token :: rest) complete (item :: items) where
  whole := by
    rw [List.flatMap_cons, cuts.whole, ← List.append_assoc, whole, List.append_assoc]
    rfl
  placed := List.forall_mem_cons.mpr ⟨placed, cuts.placed⟩
  found := by rw [cuts.found, found, filterMap_cons_toList, List.append_assoc]
  positionals := by rw [cuts.positionals, positionals, filterMap_cons_toList, List.append_assoc]

theorem cuts_of_takeAll {tokens : List String} {final complete : Scan}
    (taken : scan.takeAll tokens = .ok final) (ready : final.settle = .ok complete)
    (valued : ∀ s, .setting s none ∉ complete.found) : ∃ items, scan.Cuts tokens complete items := by
  induction tokens generalizing scan with
  | nil =>
      cases taken
      obtain ⟨closed, rfl⟩ := closed_of_valued ready valued
      exact ⟨[], by simp [closed], by simp, by simp, by simp⟩
  | cons token rest ih =>
      unfold takeAll at taken
      split at taken
      · rename_i next first
        obtain ⟨items, cuts⟩ := ih taken
        -- an option that is settled without a value would still be there at the end
        have kept : ∀ s, .setting s none ∉ next.found := by
          intro s member
          refine valued s ?_
          rw [cuts.found]
          exact List.mem_append_left _ (next.found_subset_answered member)
        cases takes_of_take first with
        | @value s waits fits =>
            refine ⟨_, cuts.cons (.spaced s token) fits ?_ ?_ ?_⟩
            · simp [Item.tokens, waiting, waits]
            · simp [Item.occurrence?, answered, waits]
            · simp [Item.positional?]
        | @assigned settled s value settles spelled checked =>
            obtain ⟨closed, rfl⟩ := closed_of_valued settles
              fun t member => kept t (List.mem_append_left _ member)
            refine ⟨_, cuts.cons (.assigned s value) trivial ?_ rfl (List.append_nil _).symm⟩
            rw [closed, ← spelled]
            rfl
        | @named settled s settles spelled =>
            obtain ⟨closed, rfl⟩ := closed_of_valued settles kept
            refine ⟨items, ?_, cuts.placed, cuts.found, cuts.positionals⟩
            rw [cuts.whole, closed, ← spelled]
            rfl
        | @flag settled f settles spelled =>
            obtain ⟨closed, rfl⟩ := closed_of_valued settles
              fun t member => kept t (List.mem_append_left _ member)
            refine ⟨_, cuts.cons (.flag f) trivial ?_ rfl (List.append_nil _).symm⟩
            rw [closed, ← spelled]
            rfl
        | @positional settled settles plain =>
            obtain ⟨closed, rfl⟩ := closed_of_valued settles kept
            refine ⟨_, cuts.cons (.positional token) plain ?_ (List.append_nil _).symm rfl⟩
            rw [closed]
            rfl
      · cases taken

def ModesExist (scan : Scan) : Prop :=
  ∀ value, .setting .mode (some value) ∈ scan.found →
    value ∈ modeNames

theorem ModesExist.count (exist : scan.ModesExist) {o : Occurrence}
    (checked : ∀ value, o = .setting .mode (some value) → check .mode (some value) = .ok ()) :
    (scan.count o).ModesExist := by
  intro value member
  rcases List.mem_append.mp member with old | new
  · exact exist value old
  · have last := checked value (List.mem_singleton.mp new).symm
    exact (check_eq_ok_iff .mode value).mp last rfl

theorem ModesExist.settle {settled : Scan} (exist : scan.ModesExist)
    (ready : scan.settle = .ok settled) : settled.ModesExist := by
  unfold Scan.settle at ready
  split at ready
  · cases ready
    exact exist
  · split at ready
    · rename_i s value _ _ checked
      cases ready
      refine ModesExist.count exist ?_
      rintro text same
      cases same
      exact checked
    · cases ready

theorem ModesExist.takes {token : String} (exist : scan.ModesExist)
    (takes : scan.Takes token next) : next.ModesExist := by
  cases takes with
  | value waits fits => exact exist
  | assigned ready spelled checked =>
      refine (exist.settle ready).count ?_
      rintro text same
      cases same
      exact checked
  | named ready spelled =>
      have settled := exist.settle ready
      exact settled
  | flag ready spelled =>
      refine (exist.settle ready).count ?_
      rintro text same
      cases same
  | positional ready plain =>
      have settled := exist.settle ready
      exact settled

theorem ModesExist.takeAll {tokens : List String} (exist : scan.ModesExist)
    (taken : scan.takeAll tokens = .ok next) : next.ModesExist := by
  induction tokens generalizing scan with
  | nil =>
      cases taken
      exact exist
  | cons token rest ih =>
      unfold Scan.takeAll at taken
      split at taken
      · rename_i first step
        exact ih (exist.takes (takes_of_take step)) taken
      · cases taken

def add (scan : Scan) : Item → Scan
  | .flag f => scan.count (.flag f)
  | .assigned s value => scan.count (.setting s (some value))
  | .spaced s value => { scan with pending := some (s, some value) }
  | .positional text => { scan with positionals := scan.positionals ++ [text] }

theorem waiting_add (free : scan.pending = none) (item : Item) : (scan.add item).waiting = [] := by
  cases item <;> simp [add, count, waiting, free]

theorem settle_add (free : scan.pending = none) {item : Item} (mode : item.ModeExists) :
    (scan.add item).settle = .ok ⟨none, scan.found ++ item.occurrence?.toList,
      scan.positionals ++ item.positional?.toList⟩ := by
  cases item with
  | spaced s value =>
      have checked : check s (some value) = .ok () := check_of_given mode (by simp [Item.valueOf?])
      simp [add, Scan.settle, checked, count, Item.occurrence?, Item.positional?]
  | _ => simp [add, Scan.settle, count, free, Item.occurrence?, Item.positional?]

theorem take_of_closed (closed : scan.waiting = []) (token : String) :
    scan.take token = scan.takeArgument (Argument.classify token) := by
  unfold take
  split
  · rename_i waits
    simp [waiting, waits] at closed
  · rfl

theorem takePlain_of_closed (closed : scan.waiting = []) (text : String) :
    scan.takePlain text =
      scan.settle.map fun scan => { scan with positionals := scan.positionals ++ [text] } := by
  unfold takePlain
  split
  · rename_i waits
    simp [waiting, waits] at closed
  · rfl

theorem take_value {s : Setting} {value : String} (waits : scan.pending = some (s, none))
    (fits : s = .capture ∨ IsPlain value) :
    scan.take value = .ok { scan with pending := some (s, some value) } := by
  by_cases capture : s = .capture
  · rw [capture] at waits
    simp [take, waits, capture]
  · have plain := (Argument.classify_plain_iff value value).mpr ⟨rfl, fits.resolve_left capture⟩
    simp [take, waits, capture, plain, takeArgument, takePlain]

theorem takeAll_item {settled : Scan} {item : Item} (closed : scan.waiting = [])
    (ready : scan.settle = .ok settled) (placed : item.Placed)
    (mode : item.ModeExists) (rest : List String) :
    scan.takeAll (item.tokens ++ rest) = (settled.add item).takeAll rest := by
  cases item with
  | flag f =>
      simp [Item.tokens, takeAll, take_of_closed closed, Argument.classify_flag, takeArgument, ready,
        Except.map, add]
  | assigned s value =>
      have checked : check s (some value) = .ok () := check_of_given mode (by simp [Item.valueOf?])
      simp [Item.tokens, takeAll, take_of_closed closed, Argument.classify_assigned, takeArgument,
        ready, checked, Except.map, add]
  | spaced s value =>
      -- the name settles what was pending and waits, then the value is taken by the look it may have
      have waits : scan.take ("--" ++ s.name) = .ok { settled with pending := some (s, none) } := by
        simp [take_of_closed closed, Argument.classify_named, takeArgument, ready, Except.map]
      have follows : { settled with pending := some (s, none) }.take value =
          .ok { settled with pending := some (s, some value) } := take_value rfl placed
      simp [Item.tokens, takeAll, waits, follows, add]
  | positional text =>
      have plain := (Argument.classify_plain_iff text text).mpr ⟨rfl, placed⟩
      simp [Item.tokens, takeAll, take_of_closed closed, plain, takeArgument,
        takePlain_of_closed closed, ready, Except.map, add]

theorem takeAll_items {settled : Scan} {items : List Item} (closed : scan.waiting = [])
    (ready : scan.settle = .ok settled) (placed : ∀ item ∈ items, item.Placed)
    (exist : ∀ item ∈ items, item.ModeExists) :
    ∃ final, scan.takeAll (items.flatMap Item.tokens) = .ok final ∧
      final.settle = .ok ⟨none, settled.found ++ items.filterMap Item.occurrence?,
        settled.positionals ++ items.filterMap Item.positional?⟩ := by
  have free : settled.pending = none := by rw [settle_eq ready]
  induction items generalizing scan settled with
  | nil =>
      refine ⟨scan, rfl, ?_⟩
      rw [ready, List.filterMap_nil, List.filterMap_nil, List.append_nil, List.append_nil, ← free]
  | cons item rest ih =>
      obtain ⟨here, later⟩ := List.forall_mem_cons.mp placed
      obtain ⟨mode, modes⟩ := List.forall_mem_cons.mp exist
      obtain ⟨final, taken, done⟩ := ih (waiting_add free item) (settle_add free mode) later modes rfl
      refine ⟨final, ?_, ?_⟩
      · rw [List.flatMap_cons, takeAll_item closed ready here mode, taken]
      · rw [done, filterMap_cons_toList, filterMap_cons_toList, List.append_assoc, List.append_assoc]

end Scan

end CaptureProbe.Options
