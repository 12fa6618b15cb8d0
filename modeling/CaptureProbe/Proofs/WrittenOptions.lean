import CaptureProbe.Proofs.LiteralRoundTrip
import CaptureProbe.Proofs.OptionGrammar
import CaptureProbe.Proofs.OptionLayers

/-!
Every configuration can be written as a list of arguments. The closure arguments stand behind the
separator, where no text is taken for an option, and output paths behind an equals sign.
-/

namespace CaptureProbe.Options

def written (o : Options) : List String :=
  ["--mode=" ++ o.mode.display, "--capture", o.capture.literal]
    ++ (o.traceOutput.map ("--dump-trace=" ++ ·)).toList
    ++ (o.callGraphOutput.map ("--dump-call-graph=" ++ ·)).toList
    ++ (if o.factoryOnly then ["--factory-only"] else [])
    ++ (if o.dumpStats then ["--dump-stats"] else [])
    ++ ["--"] ++ o.closureArgs.map Value.literal

/-- The values have literals, and there is a closure argument: where none is given, the default ones
stay. -/
structure IsWritable (o : Options) : Prop where
  capture : o.capture.IsWritable
  closureArgs : ∀ v ∈ o.closureArgs, v.IsWritable
  given : o.closureArgs ≠ []

/-- The same options, where one NaN is as good as another. -/
structure Agrees (o p : Options) : Prop where
  mode : o.mode = p.mode
  capture : o.capture.Agrees p.capture
  closureArgs : List.Forall₂ Value.Agrees o.closureArgs p.closureArgs
  factoryOnly : o.factoryOnly = p.factoryOnly
  dumpStats : o.dumpStats = p.dumpStats
  traceOutput : o.traceOutput = p.traceOutput
  callGraphOutput : o.callGraphOutput = p.callGraphOutput

namespace Item

def optional (s : Setting) (value : Option String) : List Item := (value.map (.assigned s)).toList

def switched (f : Flag) (on : Bool) : List Item := if on then [.flag f] else []

variable (s t : Setting) (value : Option String) (f g : Flag) (on : Bool)

theorem mem_optional {item : Item} :
    item ∈ optional s value ↔ ∃ text, value = some text ∧ .assigned s text = item := by
  rw [optional, Option.mem_toList, Option.map_eq_some_iff]

theorem mem_switched {item : Item} : item ∈ switched f on ↔ on = true ∧ item = .flag f := by
  cases on <;> simp [switched]

@[simp]
theorem tokens_optional : (optional s value).flatMap tokens =
    (value.map ("--" ++ s.name ++ "=" ++ ·)).toList := by
  cases value <;> rfl

@[simp]
theorem tokens_switched : (switched f on).flatMap tokens = if on then ["--" ++ f.name] else [] := by
  cases on <;> rfl

theorem switches_optional : ((optional s value).filterMap switch?).Sublist [.setting s] := by
  cases value with
  | none => exact List.nil_sublist _
  | some text => exact List.Sublist.refl _

theorem switches_switched : ((switched f on).filterMap switch?).Sublist [.flag f] := by
  cases on with
  | false => exact List.nil_sublist _
  | true => exact List.Sublist.refl _

@[simp]
theorem value_optional :
    (optional s value).findSome? (valueOf? t) = if s = t then value else none := by
  cases value <;> simp [optional, valueOf?]

@[simp]
theorem value_switched : (switched f on).findSome? (valueOf? t) = none := by
  cases on <;> rfl

@[simp]
theorem positionals_optional : (optional s value).filterMap positional? = [] := by
  cases value <;> rfl

@[simp]
theorem positionals_switched : (switched f on).filterMap positional? = [] := by
  cases on <;> rfl

end Item

def items (o : Options) : List Item :=
  [.assigned .mode o.mode.display, .spaced .capture o.capture.literal]
    ++ Item.optional .dumpTrace o.traceOutput ++ Item.optional .dumpCallGraph o.callGraphOutput
    ++ Item.switched .factoryOnly o.factoryOnly ++ Item.switched .dumpStats o.dumpStats

variable {o : Options}

theorem mem_items {item : Item} (member : item ∈ o.items) :
    item = .assigned .mode o.mode.display ∨ item = .spaced .capture o.capture.literal ∨
      (∃ s value, s ≠ .mode ∧ item = .assigned s value) ∨ ∃ f, item = .flag f := by
  simp only [items, List.mem_append, List.mem_cons, List.not_mem_nil, or_false, Item.mem_optional,
    Item.mem_switched] at member
  rcases member with
    ((((mode | capture) | ⟨path, -, trace⟩) | ⟨path, -, graph⟩) | ⟨-, only⟩) | ⟨-, stats⟩
  · exact Or.inl mode
  · exact Or.inr (Or.inl capture)
  · exact Or.inr (Or.inr (Or.inl ⟨_, path, by decide, trace.symm⟩))
  · exact Or.inr (Or.inr (Or.inl ⟨_, path, by decide, graph.symm⟩))
  · exact Or.inr (Or.inr (Or.inr ⟨_, only⟩))
  · exact Or.inr (Or.inr (Or.inr ⟨_, stats⟩))

theorem written_eq (o : Options) :
    o.written = o.items.flatMap Item.tokens ++ separator :: o.closureArgs.map Value.literal := by
  have mode : "--" ++ Setting.mode.name ++ "=" = "--mode=" := by decide
  have trace : "--" ++ Setting.dumpTrace.name ++ "=" = "--dump-trace=" := by decide
  have graph : "--" ++ Setting.dumpCallGraph.name ++ "=" = "--dump-call-graph=" := by decide
  have capture : "--" ++ Setting.capture.name = "--capture" := by decide
  have only : "--" ++ Flag.factoryOnly.name = "--factory-only" := by decide
  have stats : "--" ++ Flag.dumpStats.name = "--dump-stats" := by decide
  simp only [written, items, List.flatMap_append, List.flatMap_cons,
    Item.tokens_optional, Item.tokens_switched, Item.tokens, mode, trace, graph, capture, only, stats,
    separator, List.append_assoc, List.cons_append, List.nil_append]

theorem display_mem_modeNames (m : Mode) : m.display ∈ modeNames := by
  cases m <;> decide

theorem spells_items (o : Options) : Spells o.items (o.items.flatMap Item.tokens) where
  whole := rfl
  placed := by
    intro item member
    rcases mem_items member with rfl | rfl | ⟨s, value, -, rfl⟩ | ⟨f, rfl⟩
    · trivial
    · exact Or.inl rfl
    · trivial
    · trivial
  once := by
    have all : [Switch.setting .mode, .setting .capture, .setting .dumpTrace, .setting .dumpCallGraph,
        .flag .factoryOnly, .flag .dumpStats].Nodup := by decide
    -- an option that is left out takes its switch off this list
    refine all.sublist ?_
    simp only [items, List.filterMap_append]
    exact ((((List.Sublist.refl _).append (Item.switches_optional _ _)).append
      (Item.switches_optional _ _)).append (Item.switches_switched _ _)).append
      (Item.switches_switched _ _)
  modes := by
    intro item member value given
    rcases mem_items member with rfl | rfl | ⟨s, text, other, rfl⟩ | ⟨f, rfl⟩
    · cases given
      exact display_mem_modeNames o.mode
    · cases given
    · simp [Item.valueOf?, other] at given
    · cases given

theorem ne_separator_of_look {token : String} {look : Argument}
    (classified : Argument.classify token = look) (known : look ≠ .unknown separator) :
    token ≠ separator := by
  rintro rfl
  have unknown : Argument.classify separator = .unknown separator := by decide
  exact known (classified.symm.trans unknown)

theorem items_ne_separator (writable : o.capture.IsWritable) :
    ∀ token ∈ o.items.flatMap Item.tokens, token ≠ separator := by
  intro token member
  obtain ⟨item, inside, part⟩ := List.mem_flatMap.mp member
  rcases mem_items inside with rfl | rfl | ⟨s, value, -, rfl⟩ | ⟨f, rfl⟩
  · rw [List.mem_singleton.mp part]
    exact ne_separator_of_look (Argument.classify_assigned _ _) (by simp)
  · rcases List.mem_pair.mp part with rfl | rfl
    · exact ne_separator_of_look (Argument.classify_named _) (by simp)
    · exact Value.literal_ne_separator writable
  · rw [List.mem_singleton.mp part]
    exact ne_separator_of_look (Argument.classify_assigned _ _) (by simp)
  · rw [List.mem_singleton.mp part]
    exact ne_separator_of_look (Argument.classify_flag _) (by simp)

theorem split_written (writable : o.capture.IsWritable) :
    o.written.takeWhile (· ≠ separator) = o.items.flatMap Item.tokens ∧
      (o.written.dropWhile (· ≠ separator)).drop 1 = o.closureArgs.map Value.literal := by
  have free (token : String) (member : token ∈ o.items.flatMap Item.tokens) :=
    decide_eq_true (items_ne_separator writable token member)
  rw [written_eq]
  constructor
  · rw [List.takeWhile_append_of_pos free]
    simp
  · rw [List.dropWhile_append_of_pos free]
    simp

theorem positionals_items (o : Options) : o.items.filterMap Item.positional? = [] := by
  simp [items, List.filterMap_cons, Item.positional?]

theorem read?_display (m : Mode) : Mode.read? m.display = some m := by
  cases m <;> decide

theorem flag_mem_items (o : Options) :
    (.flag .factoryOnly ∈ o.items ↔ o.factoryOnly = true) ∧
      (.flag .dumpStats ∈ o.items ↔ o.dumpStats = true) := by
  simp [items, Item.mem_optional, Item.mem_switched]

theorem configured_agrees (writable : o.IsWritable) :
    (configured o.items (o.closureArgs.map Value.literal) Options.default).Agrees o where
  mode := by simp [configured, items, Item.valueOf?, read?_display]
  capture := by
    have read := Value.ofLiteral_literal writable.capture
    simpa [configured, items, Item.valueOf?] using read
  closureArgs := by
    have read : List.Forall₂ Value.Agrees (o.closureArgs.map fun v => Value.ofLiteral v.literal)
        o.closureArgs := by
      rw [List.forall₂_map_left_iff, List.forall₂_same]
      intro v member
      exact Value.ofLiteral_literal (writable.closureArgs v member)
    simp only [configured, positionals_items, List.nil_append, List.map_eq_nil_iff, writable.given,
      if_false, List.map_map]
    exact read
  factoryOnly := by simp [configured, Options.default, flag_mem_items]
  dumpStats := by simp [configured, Options.default, flag_mem_items]
  traceOutput := by simp [configured, Options.default, items, Item.valueOf?]
  callGraphOutput := by simp [configured, Options.default, items, Item.valueOf?]

/-- Options that are written as arguments and read over the defaults are the same options. -/
theorem written_reads_back (writable : o.IsWritable) :
    ∃ read, applyCommandLine o.written Options.default = .ok read ∧
      applyEnvironment o.written Options.default = (read, []) ∧ read.Agrees o := by
  obtain ⟨own, trailing⟩ := split_written writable.capture
  obtain ⟨patch, accepted, applied⟩ := parse_of_spells (own ▸ spells_items o)
  refine ⟨patch.apply Options.default, ?_, ?_, ?_⟩
  · exact applyCommandLine_of_accepted accepted Options.default
  · exact applyEnvironment_of_accepted accepted Options.default
  · rw [applied, trailing]
    exact configured_agrees writable

/-- Texts that look like the separator, numerals, keywords and quotes, a negative zero, a NaN with a
payload, and paths that look like options. -/
theorem written_reads_back_confusable :
    let o : Options :=
      { mode := .sloppy
        capture := .text "--"
        closureArgs := [.text "-5", .text "true", .text "\"", .text "", .number ⟨true, 0, by decide⟩,
          .number ⟨true, 1, by decide⟩, .number ⟨true, Number.infinityPattern + 1, by decide⟩, .null]
        factoryOnly := true
        dumpStats := false
        traceOutput := some "--mode=x"
        callGraphOutput := some "" }
    o.IsWritable ∧ ∃ read, applyCommandLine o.written Options.default = .ok read ∧
      applyEnvironment o.written Options.default = (read, []) ∧ read.Agrees o := by
  intro o
  have writable : o.IsWritable := ⟨trivial, by simp [o, Value.IsWritable], List.cons_ne_nil _ _⟩
  exact ⟨writable, written_reads_back writable⟩

end CaptureProbe.Options
