import CaptureProbe.Proofs.OptionScan

/-!
The machine and the grammar of option lists accept the same lists and give the same options.
-/

namespace CaptureProbe.Options

theorem Item.switch?_eq (item : Item) : item.switch? = item.occurrence?.map Occurrence.switch := by
  cases item <;> rfl

theorem Item.valueOf?_eq (s : Setting) (item : Item) :
    item.valueOf? s = item.occurrence?.bind (Occurrence.valueOf? s) := by
  cases item <;> rfl

theorem Item.occurrence?_flag_iff (item : Item) (f : Flag) :
    item.occurrence? = some (.flag f) ↔ item = .flag f := by
  cases item <;> simp [occurrence?]

theorem switches_eq (items : List Item) :
    (items.filterMap Item.occurrence?).map Occurrence.switch = items.filterMap Item.switch? := by
  rw [List.map_filterMap]
  exact List.filterMap_congr fun item _ => (item.switch?_eq).symm

theorem apply_patch {scan : Scan} {items : List Item}
    (found : scan.found = items.filterMap Item.occurrence?)
    (positionals : scan.positionals = items.filterMap Item.positional?) (trailing : List String)
    (o : Options) : (scan.patch trailing).apply o = configured items trailing o := by
  have values (s : Setting) : scan.value? s = items.findSome? (Item.valueOf? s) := by
    rw [Scan.value?, found, ← List.head?_filterMap, ← List.head?_filterMap, List.filterMap_filterMap]
    exact congrArg List.head? (List.filterMap_congr fun item _ => (item.valueOf?_eq s).symm)
  have flags (f : Flag) : scan.found.contains (.flag f) = decide (.flag f ∈ items) := by
    rw [found, Bool.eq_iff_iff, List.contains_iff_mem, List.mem_filterMap, decide_eq_true_iff]
    simp [Item.occurrence?_flag_iff]
  simp only [Scan.patch, Patch.apply, configured, values, flags, positionals, List.map_eq_nil_iff]

theorem Item.occurrence?_valued (item : Item) (s : Setting) :
    item.occurrence? ≠ some (.setting s none) := by
  cases item <;> simp [occurrence?]

theorem Item.occurrence?_of_valueOf? {item : Item} {s : Setting} {value : String}
    (given : item.valueOf? s = some value) : item.occurrence? = some (.setting s (some value)) := by
  cases item <;> simp_all [valueOf?, occurrence?]

theorem parse_of_spells {arguments : List String} {items : List Item}
    (spells : Spells items (arguments.takeWhile (· ≠ separator))) :
    ∃ patch, parse arguments = .ok patch ∧ ∀ o, patch.apply o =
      configured items ((arguments.dropWhile (· ≠ separator)).drop 1) o := by
  have start : ({} : Scan).settle = .ok {} := rfl
  obtain ⟨final, taken, settled⟩ := Scan.takeAll_items rfl start spells.placed spells.modes
  rw [spells.whole] at taken
  let complete : Scan :=
    ⟨none, items.filterMap Item.occurrence?, items.filterMap Item.positional?⟩
  have done : final.finish = .ok complete := by
    refine (Scan.finish_eq_ok_iff complete).mpr ⟨settled, ?_, ?_⟩
    · intro s member
      obtain ⟨item, -, counted⟩ := List.mem_filterMap.mp member
      exact item.occurrence?_valued s counted
    · rw [switches_eq]
      exact spells.once
  refine ⟨complete.patch _, ?_, apply_patch rfl rfl _⟩
  simp only [parse, taken, done]
  rfl

theorem spells_of_parse {arguments : List String} {patch : Patch}
    (accepted : parse arguments = .ok patch) :
    ∃ items, Spells items (arguments.takeWhile (· ≠ separator)) ∧ ∀ o, patch.apply o =
      configured items ((arguments.dropWhile (· ≠ separator)).drop 1) o := by
  simp only [parse] at accepted
  split at accepted
  · cases accepted
  · rename_i final taken
    obtain ⟨complete, done, rfl⟩ := map_eq_ok_iff.mp accepted
    obtain ⟨ready, valued, once⟩ := (Scan.finish_eq_ok_iff complete).mp done
    obtain ⟨items, cuts⟩ := Scan.cuts_of_takeAll taken ready valued
    have found : complete.found = items.filterMap Item.occurrence? := cuts.found
    have start : ({} : Scan).ModesExist := fun _ member => absurd member List.not_mem_nil
    have exist := (start.takeAll taken).settle ready
    refine ⟨items, ⟨cuts.whole, cuts.placed, ?_, ?_⟩, apply_patch found cuts.positionals _⟩
    · rw [← switches_eq, ← found]
      exact once
    · intro item member value given
      apply exist value
      rw [found]
      exact List.mem_filterMap.mpr ⟨item, member, Item.occurrence?_of_valueOf? given⟩

/-- The lists that are accepted, on the command line and from the environment, are those that the
grammar cuts into items, and the options become what the items give. -/
theorem accepted_iff_spelled (arguments : List String) (o next : Options) :
    let own := arguments.takeWhile (· ≠ "--")
    let trailing := (arguments.dropWhile (· ≠ "--")).drop 1
    (applyCommandLine arguments o = .ok next ↔
      ∃ items, Spells items own ∧ configured items trailing o = next) ∧
    (applyEnvironment arguments o = (next, []) ↔
      ∃ items, Spells items own ∧ configured items trailing o = next) := by
  intro own trailing
  have spelled : (∃ patch, parse arguments = .ok patch ∧ patch.apply o = next) ↔
      ∃ items, Spells items own ∧ configured items trailing o = next := by
    constructor
    · rintro ⟨patch, accepted, rfl⟩
      obtain ⟨items, spells, same⟩ := spells_of_parse accepted
      exact ⟨items, spells, (same o).symm⟩
    · rintro ⟨items, spells, rfl⟩
      obtain ⟨patch, accepted, same⟩ := parse_of_spells spells
      exact ⟨patch, accepted, same o⟩
  constructor
  · rw [← spelled]
    exact map_eq_ok_iff
  · rw [← spelled]
    unfold applyEnvironment
    cases parse arguments <;> simp

end CaptureProbe.Options
