import Mathlib.Control.Monad.Basic
import CaptureProbe.Machine
import CaptureProbe.Proofs.ArtifactLaws
import CaptureProbe.Proofs.OutputTrace

/-!
What a run publishes, and when. A run that could not write or flush its output leaves no file and shows
no statistics. One that could tries the artifacts it was asked for in their order, up to the first that
fails. If none fails, each file holds what was asked for by its path; of two that go to one file the
call graph is the later one and remains.
-/

namespace CaptureProbe

namespace Options

def lineCount (o : Options) : Nat := if o.factoryOnly then 1 else o.closureArgs.length + 1

def lines (o : Options) : List UInt8 := (List.replicate o.lineCount o.capture.lineBytes).flatten

def paths (o : Options) : List String := o.traceOutput.toList ++ o.callGraphOutput.toList

theorem length_lines (o : Options) : o.lines.length = o.lineCount * o.capture.lineBytes.length := by
  rw [lines, List.length_flatten, List.map_replicate, List.sum_replicate_nat]

end Options

theorem Sink.wholeLines_eq_iff (s : Sink) {length : Nat} (positive : 0 < length) (count : Nat) :
    s.wholeLines length count = count ↔ s.room (count * length) = count * length := by
  unfold wholeLines room
  cases s.limit with
  | none => simp
  | some limit =>
      have divides := Nat.le_div_iff_mul_le (x := count) (y := limit - s.written.length) positive
      dsimp only
      omega

theorem Options.wholeLines_iff (o : Options) (sink : Sink) :
    sink.wholeLines o.capture.lineBytes.length o.lineCount = o.lineCount ↔
      sink.room o.lines.length = o.lines.length := by
  have long := o.capture.length_lineBytes
  rw [length_lines]
  exact sink.wholeLines_eq_iff (by omega) o.lineCount

namespace Run

def start (o : Options) (sink : Sink) : Context :=
  (Context.fresh o.mode sink).note .info .program ("Running probe in " ++ o.mode.display ++ " mode")

theorem program_eq (o : Options) (sink : Sink) :
    program o sink =
      if o.factoryOnly then Program.factoryOnly o.capture (start o sink)
      else ((Program.run o.capture o.closureArgs (start o sink)).1.map fun _ => (),
        (Program.run o.capture o.closureArgs (start o sink)).2) := by
  unfold program
  dsimp only
  rw [← start]
  congr 1
  generalize Program.run o.capture o.closureArgs (start o sink) = answer
  rcases answer with ⟨_ | _, c⟩ <;> rfl

-- The program succeeds if and only if all that it writes fits.
theorem program_fst (o : Options) (sink : Sink) :
    (program o sink).1 = if sink.room o.lines.length = o.lines.length then .ok ()
      else .error (sink.overflow .stalled) := by
  have room : (start o sink).sink = sink := rfl
  simp only [← o.wholeLines_iff sink]
  rw [program_eq, Options.lineCount]
  cases o.factoryOnly with
  | true =>
      have made : (Aggregate.make (start o sink)).2.sink = sink := rfl
      simp only [if_true, Program.factoryOnly_eq, Factory.invoke_fst, made, Context.wholeLines_one]
      cases sink.fits o.capture <;> rfl
  | false =>
      simp only [Bool.false_eq_true, if_false, Program.run_fst, Program.wholeLines_eq, room]
      split <;> rfl

theorem program_bursts (o : Options) (sink : Sink) :
    (start o sink).Bursts o.capture o.lineCount (program o sink).2 := by
  rw [program_eq, Options.lineCount]
  cases o.factoryOnly with
  | true => exact Program.factoryOnly_bursts o.capture (start o sink)
  | false => exact Program.run_bursts o.capture o.closureArgs (start o sink)

theorem flush_program (o : Options) (sink : Sink) : (program o sink).2.flush = sink.flush := by
  rw [Context.flush, (program_bursts o sink).sink]
  rfl

-- What was written once the program is through is the lines of what was emitted.
theorem output_program {o : Options} {sink : Sink}
    (fits : sink.room o.lines.length = o.lines.length) :
    (program o sink).2.sink.written =
      sink.written ++ (program o sink).2.trace.emitted.flatMap Value.lineBytes := by
  have bursts := program_bursts o sink
  have whole := (o.wholeLines_iff sink).mpr fits
  have room : (start o sink).sink = sink := rfl
  have none_ : (start o sink).trace.emitted = [] := rfl
  have all : sink.part o.lines = o.lines := by
    rw [Sink.part, fits, List.take_length]
  rw [bursts.sink, bursts.emitted, room, whole, none_, ← Options.lines, all, List.nil_append]
  rw [Sink.written_append, List.flatMap_replicate]
  rfl

def finished (o : Options) (sink : Sink) (directory : Directory) (screen : Screen) : Run :=
  ⟨(program o sink).2, directory, screen.note (program o sink).2.log⟩

-- The three ways in which a run goes on from its program.
theorem execute_eq (o : Options) (sink : Sink) (directory : Directory) (screen : Screen) :
    execute o sink directory screen =
      if sink.room o.lines.length = o.lines.length then
        match sink.flush with
        | .error fault => (.error (.flush fault), finished o sink directory screen)
        | .ok () => (finished o sink directory screen).publishAll o.artifacts
      else (.error (.output (sink.overflow .stalled)), finished o sink directory screen) := by
  have result := program_fst o sink
  have flush := flush_program o sink
  unfold execute finished
  generalize program o sink = answer at result flush
  obtain ⟨verdict, c⟩ := answer
  dsimp only at result flush ⊢
  rw [flush]
  by_cases fits : sink.room o.lines.length = o.lines.length
  · rw [if_pos fits] at result ⊢
    subst result
    rfl
  · rw [if_neg fits] at result ⊢
    subst result
    rfl

end Run

namespace Options

def Asks (o : Options) : Artifact → Prop
  | .trace path => o.traceOutput = some path
  | .callGraph path => o.callGraphOutput = some path
  | .statistics => o.dumpStats = true

theorem mem_artifacts (o : Options) (a : Artifact) : a ∈ o.artifacts ↔ o.Asks a := by
  cases a <;> simp [artifacts, Asks]

end Options

def Artifact.rank : Artifact → Nat
  | .trace _ => 0
  | .callGraph _ => 1
  | .statistics => 2

theorem Options.artifacts_in_order (o : Options) : o.artifacts.Pairwise (·.rank < ·.rank) := by
  unfold artifacts
  cases o.traceOutput <;> cases o.callGraphOutput <;> cases o.dumpStats <;> simp [Artifact.rank]

theorem Options.artifacts_of_dumpStats {o : Options} (asked : o.dumpStats = true) :
    ∃ done, o.artifacts = done ++ [.statistics] := by
  rw [artifacts, if_pos asked]
  exact ⟨_, rfl⟩

theorem Options.paths_artifacts (o : Options) : o.artifacts.flatMap (·.path?.toList) = o.paths := by
  unfold artifacts paths
  cases o.traceOutput <;> cases o.callGraphOutput <;> cases o.dumpStats <;> rfl

namespace Run

/-- What a run leaves behind that was asked for files and succeeded: each file that was asked for, but
the call graph alone where both go to one place, no other file, and the lines of all that was
emitted. -/
structure Complete (o : Options) (sink : Sink) (directory : Directory) (r : Run) : Prop where
  callGraph : ∀ path, o.callGraphOutput = some path →
    r.directory.contents? path = some r.context.graph.toDot
  trace : ∀ path, o.traceOutput = some path →
    (∀ other, o.callGraphOutput = some other → directory.place? other ≠ directory.place? path) →
      r.directory.contents? path = some r.context.trace.dump
  replaced : ∀ path other, o.traceOutput = some path → o.callGraphOutput = some other →
    directory.place? other = directory.place? path →
      r.directory.contents? path = some r.context.graph.toDot
  others : ∀ place, (∀ path ∈ o.paths, directory.place? path ≠ some place) →
    r.directory.read? place = directory.read? place
  output : r.context.sink.written =
    sink.written ++ r.context.trace.emitted.flatMap Value.lineBytes

section Complete

variable {o : Options} {sink : Sink} {directory : Directory} {screen : Screen} {r : Run}
  (publishes : Publishes (finished o sink directory screen) o.artifacts r)
  (replaces : ∀ path ∈ o.paths, directory.Replaces path)

include publishes replaces

theorem contents_callGraph {path : String} (given : o.callGraphOutput = some path) :
    r.directory.contents? path = some r.context.graph.toDot := by
  have order : o.artifacts = (o.traceOutput.map Artifact.trace).toList ++
      .callGraph path :: (if o.dumpStats then [.statistics] else []) := by
    simp [Options.artifacts, given]
  rw [order] at publishes
  refine publishes.contents rfl (replaces path ?_) ?_
  · simp [Options.paths, given]
  · -- nothing behind the call graph is a file
    intro other member
    cases stats : o.dumpStats <;> simp [stats, Artifact.path?] at member

theorem contents_trace {path : String} (given : o.traceOutput = some path)
    (apart : ∀ other, o.callGraphOutput = some other →
      directory.place? other ≠ directory.place? path) :
    r.directory.contents? path = some r.context.trace.dump := by
  have order : o.artifacts = [] ++ .trace path :: ((o.callGraphOutput.map .callGraph).toList ++
      (if o.dumpStats then [.statistics] else [])) := by
    simp [Options.artifacts, given]
  rw [order] at publishes
  refine publishes.contents rfl (replaces path ?_) ?_
  · simp [Options.paths, given]
  · intro other member
    apply apart other
    cases graph : o.callGraphOutput <;> cases stats : o.dumpStats <;>
      simp_all [Artifact.path?]

theorem complete_of_publishes (fits : sink.room o.lines.length = o.lines.length) :
    Complete o sink directory r := by
  have settles := publishes.settles
  have unprinted := publishes.sink (by rw [o.paths_artifacts]; exact replaces)
  rw [o.paths_artifacts] at settles
  refine ⟨fun _ => contents_callGraph publishes replaces,
    fun _ => contents_trace publishes replaces, ?_, settles.others, ?_⟩
  · intro path other _ given same
    have moved : r.directory.place? path = r.directory.place? other := by
      rw [settles.places, settles.places]
      exact same.symm
    rw [Directory.contents?, moved]
    exact contents_callGraph publishes replaces given
  · rw [unprinted, settles.trace]
    exact output_program fits

end Complete

/-- If the output of a run does not fit, it fails with the fault of the sink; if it fits and cannot be
flushed, with the fault of the flush; and either way there is no file, and the screen shows log records
only. Otherwise the artifacts that were asked for, and no others, are tried in the order of trace, call
graph and statistics, up to the first that fails. Where a path leads to no device, a run that succeeds
leaves all files and lines complete; and the statistics, if they were asked for, are the last thing
that it shows. -/
theorem publishes_completed_runs (o : Options) (sink : Sink) (directory : Directory)
    (screen : Screen) :
    let answer := execute o sink directory screen
    let fits := sink.room o.lines.length = o.lines.length
    let unpublished := answer.2.directory = directory ∧
      answer.2.screen = screen.note answer.2.context.log
    (¬ fits → (∃ fault, answer.1 = .error fault ∧
        fault.situation = "Failed to write to the output stream" ∧
        fault.cause = sink.overflow .stalled) ∧ unpublished) ∧
      (fits → ∀ broken, sink.flush = .error broken → (∃ fault, answer.1 = .error fault ∧
        fault.situation = "Failed to flush the output stream" ∧ fault.cause = broken) ∧
          unpublished) ∧
      (fits → sink.flush = .ok () → ∃ artifacts, (∀ a, a ∈ artifacts ↔ o.Asks a) ∧
        artifacts.Pairwise (·.rank < ·.rank) ∧
          Attempts (finished o sink directory screen) artifacts answer) ∧
      (answer.1 = .ok () → (∀ path ∈ o.paths, directory.Replaces path) →
        Complete o sink directory answer.2) ∧
      (answer.1 = .ok () → o.dumpStats = true →
        answer.2.statisticsBytes <:+ answer.2.screen.shown) := by
  intro answer fits unpublished
  have stopped : ¬ fits → answer =
      (.error (.output (sink.overflow .stalled)), finished o sink directory screen) := by
    intro short
    exact (execute_eq o sink directory screen).trans (if_neg short)
  have unflushed : fits → ∀ broken, sink.flush = .error broken → answer =
      (.error (.flush broken), finished o sink directory screen) := by
    intro fit broken unflushed
    refine ((execute_eq o sink directory screen).trans (if_pos fit)).trans ?_
    rw [unflushed]
  have tried : fits → sink.flush = .ok () →
      Attempts (finished o sink directory screen) o.artifacts answer := by
    intro fit done
    have all : answer = _ := (execute_eq o sink directory screen).trans (if_pos fit)
    rw [all, done]
    exact publishAll_attempts _ _
  clear_value answer
  have published : answer.1 = .ok () →
      fits ∧ Publishes (finished o sink directory screen) o.artifacts answer.2 := by
    intro success
    by_cases fit : fits
    · cases ending : sink.flush with
      | error broken =>
          rw [unflushed fit broken ending] at success
          cases success
      | ok done => exact ⟨fit, (tried fit ending).publishes success⟩
    · rw [stopped fit] at success
      cases success
  refine ⟨?_, ?_, ?_, ?_, ?_⟩
  · intro short
    obtain rfl := stopped short
    exact ⟨⟨_, rfl, rfl, rfl⟩, rfl, rfl⟩
  · intro fit broken fails
    obtain rfl := unflushed fit broken fails
    exact ⟨⟨_, rfl, rfl, rfl⟩, rfl, rfl⟩
  · intro fit done
    exact ⟨o.artifacts, o.mem_artifacts, o.artifacts_in_order, tried fit done⟩
  · intro success replaces
    obtain ⟨fit, publishes⟩ := published success
    exact complete_of_publishes publishes replaces fit
  · intro success asked
    obtain ⟨done, last⟩ := Options.artifacts_of_dumpStats asked
    have publishes := (published success).2
    rw [last] at publishes
    exact publishes.statistics

/-- Two paths to one file, of which one leads through a link, and the statistics: the call graph is what
remains in the file, and all is shown. On a screen with room for forty bytes the statistics fail. -/
theorem publishes_completed_runs_one_file :
    let o : Options := { Options.default with
      traceOutput := some "out", callGraphOutput := some "/proc/self/cwd/./out", dumpStats := true }
    let directory := Machine.directory ["home", "probe"] []
    let answer := execute o {} directory {}
    let narrow := execute o {} directory { sink := { limit := some 40 } }
    (answer.1 = .ok () ∧
      answer.2.directory.contents? "out" = some answer.2.context.graph.toDot ∧
      answer.2.context.sink.written = answer.2.context.trace.emitted.flatMap Value.lineBytes ∧
      answer.2.statisticsBytes <:+ answer.2.screen.shown) ∧
    narrow.1 = .error (.statistics (.closed .brokenPipe)) ∧
      ∃ artifacts, (∀ a, a ∈ artifacts ↔ o.Asks a) ∧ artifacts.Pairwise (·.rank < ·.rank) ∧
        Attempts (finished o {} directory { sink := { limit := some 40 } }) artifacts narrow := by
  intro o directory
  dsimp only
  obtain ⟨-, -, -, completed, shown⟩ := publishes_completed_runs o {} directory {}
  obtain ⟨-, -, tried, -⟩ := publishes_completed_runs o {} directory { sink := { limit := some 40 } }
  have success : (execute o {} directory {}).1 = .ok () := by decide +kernel
  have cut : (execute o {} directory { sink := { limit := some 40 } }).1 =
      .error (.statistics (.closed .brokenPipe)) := by decide +kernel
  have complete := completed success (by decide +kernel)
  exact ⟨⟨success, complete.replaced _ _ rfl rfl (by decide +kernel),
    complete.output.trans (List.nil_append _), shown success rfl⟩, cut, tried (by decide +kernel) rfl⟩

end Run
end CaptureProbe
