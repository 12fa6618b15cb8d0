import CaptureProbe.CommandLine
import CaptureProbe.Proofs.StringLists

/-!
The layers of the options of a run. A list of arguments is a patch, the same over all options; so the
command line decides field by field over the flags of the environment, and these over the defaults.
What the flags give is said by the grammar of JSON, not by the way they are read.
-/

namespace CaptureProbe

namespace Patch

variable (p : Patch) (o : Options)

def closureArgs? : Option (List Value) := if p.closureArgs = [] then none else some p.closureArgs

theorem apply_eq : p.apply o =
    { mode := p.mode.getD o.mode
      capture := p.capture.getD o.capture
      closureArgs := p.closureArgs?.getD o.closureArgs
      factoryOnly := o.factoryOnly || p.factoryOnly
      dumpStats := o.dumpStats || p.dumpStats
      traceOutput := p.traceOutput.or o.traceOutput
      callGraphOutput := p.callGraphOutput.or o.callGraphOutput } := by
  unfold apply closureArgs?
  split <;> rfl

theorem apply_apply : p.apply (p.apply o) = p.apply o := by
  simp only [apply_eq, ← Option.getD_or, ← Option.or_assoc, Option.or_self, Bool.or_assoc,
    Bool.or_self]

end Patch

namespace Options

/-- The flags of the environment are a JSON list of strings, and as arguments these are accepted and
make the changes of a patch. -/
def GivenBy (flags : Option String) (patch : Patch) : Prop :=
  ∃ text arguments, flags = some text ∧ Json.StringList text arguments ∧ parse arguments = .ok patch

def environmentPatch? (flags : Option String) : Option Patch :=
  (flags.bind Json.strings?).bind fun arguments => (parse arguments).toOption

theorem parse_toOption_eq_some_iff (arguments : List String) (patch : Patch) :
    (parse arguments).toOption = some patch ↔ parse arguments = .ok patch := by
  cases parse arguments with
  | error refusal => simp [Except.toOption]
  | ok found => simp [Except.toOption]

theorem environmentPatch?_eq_some_iff (flags : Option String) (patch : Patch) :
    environmentPatch? flags = some patch ↔ GivenBy flags patch := by
  simp only [environmentPatch?, Option.bind_eq_some_iff, Json.strings?_eq_some_iff,
    parse_toOption_eq_some_iff, GivenBy]
  constructor
  · rintro ⟨arguments, ⟨text, given, list⟩, accepted⟩
    exact ⟨text, arguments, given, list, accepted⟩
  · rintro ⟨text, arguments, given, list, accepted⟩
    exact ⟨arguments, ⟨text, given, list⟩, accepted⟩

-- Arguments that are written as JSON give what they give on the command line.
theorem givenBy_written (style : Json.Style) (depth : Nat) (arguments : List String) (patch : Patch) :
    GivenBy (some (style.list depth (arguments.map Json.string))) patch ↔
      parse arguments = .ok patch := by
  rw [← environmentPatch?_eq_some_iff, environmentPatch?, Option.bind_some, Json.strings?_written,
    Option.bind_some, parse_toOption_eq_some_iff]

/-- Each field is as the command line gives it, else as the environment does, else the default. A flag
is set if one of the two sets it. -/
structure Layered (line : Patch) (environment : Option Patch) (o : Options) : Prop where
  mode : o.mode = (line.mode.or (environment.bind Patch.mode)).getD Options.default.mode
  capture : o.capture =
    (line.capture.or (environment.bind Patch.capture)).getD Options.default.capture
  closureArgs : o.closureArgs =
    (line.closureArgs?.or (environment.bind Patch.closureArgs?)).getD Options.default.closureArgs
  traceOutput : o.traceOutput =
    (line.traceOutput.or (environment.bind Patch.traceOutput)).or Options.default.traceOutput
  callGraphOutput : o.callGraphOutput =
    (line.callGraphOutput.or (environment.bind Patch.callGraphOutput)).or
      Options.default.callGraphOutput
  factoryOnly : o.factoryOnly = true ↔
    line.factoryOnly = true ∨ ∃ p, environment = some p ∧ p.factoryOnly = true
  dumpStats : o.dumpStats = true ↔
    line.dumpStats = true ∨ ∃ p, environment = some p ∧ p.dumpStats = true

theorem Layered.unique {line : Patch} {environment : Option Patch} {o p : Options}
    (first : Layered line environment o) (second : Layered line environment p) : o = p := by
  cases o
  cases p
  rw [Options.mk.injEq]
  exact ⟨first.mode.trans second.mode.symm, first.capture.trans second.capture.symm,
    first.closureArgs.trans second.closureArgs.symm,
    Bool.eq_iff_iff.mpr (first.factoryOnly.trans second.factoryOnly.symm),
    Bool.eq_iff_iff.mpr (first.dumpStats.trans second.dumpStats.symm),
    first.traceOutput.trans second.traceOutput.symm,
    first.callGraphOutput.trans second.callGraphOutput.symm⟩

def underEnvironment (environment : Option Patch) : Options :=
  (environment.map (·.apply Options.default)).getD Options.default

theorem layered_apply (line : Patch) (environment : Option Patch) :
    Layered line environment (line.apply (underEnvironment environment)) := by
  cases environment with
  | none =>
      constructor
      all_goals simp [Patch.apply_eq, underEnvironment, Options.default]
  | some p =>
      constructor
      all_goals simp [Patch.apply_eq, underEnvironment, Options.default, or_comm, Option.getD_or]

variable {arguments : List String}

theorem applyCommandLine_of_accepted {patch : Patch} (accepted : parse arguments = .ok patch)
    (o : Options) : applyCommandLine arguments o = .ok (patch.apply o) := by
  rw [applyCommandLine, accepted]
  rfl

theorem applyEnvironment_of_accepted {patch : Patch} (accepted : parse arguments = .ok patch)
    (o : Options) : applyEnvironment arguments o = (patch.apply o, []) := by
  rw [applyEnvironment, accepted]

theorem applyCommandLine_of_refused {refusal : Refusal} (refused : parse arguments = .error refusal)
    (o : Options) : applyCommandLine arguments o = .error refusal := by
  rw [applyCommandLine, refused]
  rfl

theorem applyEnvironment_of_refused {refusal : Refusal} (refused : parse arguments = .error refusal)
    (o : Options) : applyEnvironment arguments o =
      (o, [⟨.warn, .options, "Ignoring PROBE_FLAGS: " ++ refusal.message⟩]) := by
  rw [applyEnvironment, refused]

theorem applyEnvironment_flags (flags : Option String) :
    (applyEnvironment (environmentArguments flags) Options.default).1 =
      underEnvironment (environmentPatch? flags) := by
  unfold environmentArguments environmentPatch?
  cases flags.bind Json.strings? with
  -- what is no list of strings stands for the empty list, and that changes nothing
  | none => rfl
  | some arguments =>
      rw [Option.getD_some, Option.bind_some]
      cases verdict : parse arguments with
      | ok patch =>
          rw [applyEnvironment_of_accepted verdict]
          rfl
      | error refusal =>
          rw [applyEnvironment_of_refused verdict]
          rfl

end Options

namespace CommandLine

open Options

def options? (i : Invocation) : Option Options := (prepare i).toOption.map Prod.snd

theorem options?_eq (i : Invocation) :
    options? i = (decodeArguments i.arguments).toOption.bind fun arguments =>
      (applyCommandLine arguments (underEnvironment (environmentPatch? i.flags))).toOption := by
  rw [← applyEnvironment_flags]
  unfold options? prepare
  dsimp only
  cases decodeArguments i.arguments with
  | error undecodable => rfl
  | ok arguments =>
      dsimp only [Except.toOption, Option.bind_some]
      cases applyCommandLine arguments
        (applyEnvironment (environmentArguments i.flags) Options.default).1 <;> rfl

theorem prepared_of_options? {i : Invocation} {o : Options} (given : options? i = some o) :
    ∃ screen, prepare i = .ok (screen, o) := by
  unfold options? at given
  cases prepared : prepare i with
  | error ending =>
      rw [prepared] at given
      cases given
  | ok result =>
      rw [prepared] at given
      cases given
      exact ⟨result.1, rfl⟩

/-- A list of arguments makes the same changes over all options and from both sources, or none. The
options of a run are layered, over what the flags of the environment give if they are a JSON list of
strings that is accepted. All lists of arguments can be given so, and flags that give nothing are as
good as none. -/
theorem options_in_layers (arguments : List String) (i : Invocation) :
    ((∃ patch, parse arguments = .ok patch ∧ ∀ o,
        applyCommandLine arguments o = .ok (patch.apply o) ∧
        applyEnvironment arguments o = (patch.apply o, []) ∧
        applyCommandLine arguments (patch.apply o) = .ok (patch.apply o) ∧
        applyEnvironment arguments (patch.apply o) = (patch.apply o, [])) ∨
      ∃ refusal, parse arguments = .error refusal ∧ ∀ o,
        applyCommandLine arguments o = .error refusal ∧
        ∃ warning, applyEnvironment arguments o = (o, [warning])) ∧
    (∀ line, decodeArguments i.arguments = .ok arguments → parse arguments = .ok line →
      ∃ screen o environment, prepare i = .ok (screen, o) ∧ Layered line environment o ∧
        ∀ patch, environment = some patch ↔ GivenBy i.flags patch) ∧
    (∀ (style : Json.Style) depth patch,
      GivenBy (some (style.list depth (arguments.map Json.string))) patch ↔
        parse arguments = .ok patch) ∧
    ((∀ patch, ¬ GivenBy i.flags patch) → options? i = options? { i with flags := none }) := by
  refine ⟨?_, ?_, ?_, ?_⟩
  · cases verdict : parse arguments with
    | ok patch =>
        refine Or.inl ⟨patch, rfl, ?_⟩
        intro o
        have line := applyCommandLine_of_accepted verdict
        have environment := applyEnvironment_of_accepted verdict
        refine ⟨line o, environment o, ?_, ?_⟩
        · rw [line, patch.apply_apply]
        · rw [environment, patch.apply_apply]
    | error refusal =>
        refine Or.inr ⟨refusal, rfl, ?_⟩
        intro o
        exact ⟨applyCommandLine_of_refused verdict o, _, applyEnvironment_of_refused verdict o⟩
  · intro line decoded accepted
    have given : options? i = some (line.apply (underEnvironment (environmentPatch? i.flags))) := by
      rw [options?_eq, decoded]
      exact congrArg Except.toOption (applyCommandLine_of_accepted accepted _)
    obtain ⟨screen, prepared⟩ := prepared_of_options? given
    exact ⟨screen, _, _, prepared, layered_apply line _, environmentPatch?_eq_some_iff i.flags⟩
  · intro style depth
    exact givenBy_written style depth arguments
  · intro nothing
    have unread : environmentPatch? i.flags = none := by
      apply Option.eq_none_iff_forall_ne_some.mpr
      intro patch found
      exact nothing patch ((environmentPatch?_eq_some_iff i.flags patch).mp found)
    rw [options?_eq, options?_eq, unread]
    rfl

/-- Flags that are read under a command line that gives other fields, and flags that ask for help. -/
theorem options_in_layers_mixed :
    let arguments := ["--capture", "-x", "seven"]
    let line : Patch := ⟨none, some (.text "-x"), [.text "seven"], false, false, none, none⟩
    let flags : Patch := ⟨some .sloppy, none, [.ofInt 8], false, true, none, none⟩
    let read : Invocation :=
      { arguments := arguments.map Text.bytes
        flags := some " [\"--mode=sloppy\", \"\\u002d-dump-stats\",\n\"8\"]" }
    let unread : Invocation := { read with flags := some "[\"--mode=sloppy\", \"--help\"]" }
    (decodeArguments read.arguments = .ok arguments ∧ parse arguments = .ok line ∧
      GivenBy read.flags flags ∧ ∃ screen, prepare read = .ok (screen,
        { Options.default with
          mode := .sloppy
          capture := .text "-x"
          closureArgs := [.text "seven"]
          dumpStats := true })) ∧
    (∀ patch, ¬ GivenBy unread.flags patch) ∧
      options? unread = options? { unread with flags := none } := by
  intro arguments line flags read unread
  have decoded : decodeArguments read.arguments = .ok arguments := by rfl
  have accepted : parse arguments = .ok line := by rfl
  have given : environmentPatch? read.flags = some flags := by decide +kernel
  have refused : environmentPatch? unread.flags = none := by decide +kernel
  rw [environmentPatch?_eq_some_iff] at given
  have nothing : ∀ patch, ¬ GivenBy unread.flags patch := by
    intro patch found
    rw [← environmentPatch?_eq_some_iff, refused] at found
    cases found
  refine ⟨⟨decoded, accepted, given, ?_⟩, nothing, ?_⟩
  · obtain ⟨screen, o, environment, prepared, layered, gives⟩ :=
      (options_in_layers arguments read).2.1 line decoded accepted
    obtain rfl := (gives flags).mpr given
    obtain rfl := layered.unique (layered_apply line (some flags))
    exact ⟨screen, prepared⟩
  · exact (options_in_layers arguments unread).2.2.2 nothing

end CommandLine
end CaptureProbe
