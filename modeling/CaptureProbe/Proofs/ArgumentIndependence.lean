import CaptureProbe.Proofs.SessionStep

/-!
What closures are called with is not observable. Two sessions that perform the same operations up to the
arguments of closures go through the same states and give the same answers, closures that were returned
by closures included, and fail at the same byte. The log is where they may differ, so states are
compared without it.
-/

namespace CaptureProbe

namespace Context

def unlogged (c : Context) : Context := { c with log := [] }

def bare {α : Type} (answer : α × Context) : α × Context := (answer.1, answer.2.unlogged)

theorem unlogged_eq_iff {c d : Context} :
    c.unlogged = d.unlogged ↔ c.sink = d.sink ∧ c.realm = d.realm ∧ c.calls = d.calls ∧
      c.graph = d.graph ∧ c.trace = d.trace ∧ c.nextObject = d.nextObject ∧
      c.nextFunction = d.nextFunction ∧ c.nextSite = d.nextSite := by
  simp [unlogged]

-- A growth says all about the context that it leads to but the log.
theorem Grows.unlogged_eq {c after last : Context} {g : Growth} (first : c.Grows g after)
    (second : c.unlogged.Grows g last) : after.unlogged = last.unlogged := by
  refine unlogged_eq_iff.mpr ⟨?_, ?_, ?_, ?_, ?_, ?_, ?_, ?_⟩
  · exact first.sink.trans second.sink.symm
  · exact first.realm.trans second.realm.symm
  · exact first.calls.trans second.calls.symm
  · exact first.graph.trans second.graph.symm
  · exact first.trace.trans second.trace.symm
  · exact first.nextObject.trans second.nextObject.symm
  · exact first.nextFunction.trans second.nextFunction.symm
  · exact first.nextSite.trans second.nextSite.symm

end Context

open Context (bare)

variable (c : Context)

theorem Aggregate.bare_callProbe (a : Aggregate) (form : CallForm) :
    bare (a.callProbe form c) = bare (a.callProbe form c.unlogged) :=
  Prod.ext rfl ((a.callProbe_grows form c).unlogged_eq (a.callProbe_grows form c.unlogged))

theorem Factory.bare_invoke (f : Factory) (n : Value) :
    bare (f.invoke n c) = bare (f.invoke n c.unlogged) := by
  apply Prod.ext
  · change (f.invoke n c).1 = (f.invoke n c.unlogged).1
    rw [invoke_fst, invoke_fst]
    rfl
  · exact (f.invoke_grows n c).unlogged_eq (f.invoke_grows n c.unlogged)

-- A closure answers alike to all arguments.
theorem Closure.bare_invoke (f : Closure) (first second : Value) :
    bare (f.invoke first c) = bare (f.invoke second c.unlogged) := by
  apply Prod.ext
  · change (f.invoke first c).1 = (f.invoke second c.unlogged).1
    rw [invoke_fst, invoke_fst]
    rfl
  · exact (f.invoke_grows first c).unlogged_eq (f.invoke_grows second c.unlogged)

-- A run depends on the number of its arguments only.
theorem Program.bare_run (capture : Value) {first second : List Value}
    (count : first.length = second.length) :
    bare (run capture first c) = bare (run capture second c.unlogged) := by
  apply Prod.ext
  · change (run capture first c).1 = (run capture second c.unlogged).1
    rw [run_fst, run_fst, count]
    rfl
  · have other := run_grows capture second c.unlogged
    rw [← count] at other
    exact (run_grows capture first c).unlogged_eq other

theorem Program.bare_factoryOnly (capture : Value) :
    bare (factoryOnly capture c) = bare (factoryOnly capture c.unlogged) := by
  have made : (Aggregate.make c.unlogged).2 = (Aggregate.make c).2.unlogged := rfl
  have call := (Aggregate.next c).factory.bare_invoke (Aggregate.make c).2 capture
  obtain ⟨result, after⟩ := Prod.mk.inj call
  rw [factoryOnly_eq, factoryOnly_eq, made]
  exact Prod.ext (congrArg (Except.map fun _ => ()) result) after

theorem Context.bare_emit (v : Value) : bare (c.emit v) = bare (c.unlogged.emit v) := by
  rw [emit_eq, emit_eq]
  rfl

theorem Context.unlogged_leave : c.leave.unlogged = c.unlogged.leave.unlogged := by
  have same : c.unlogged.calls = c.calls := rfl
  unfold leave
  rw [same]
  split <;> rfl

namespace Session

def unlogged (s : Session) : Session := { s with context := s.context.unlogged }

def view (answer : Outcome × Session) : Outcome × Session := (answer.1, answer.2.unlogged)

variable (s : Session)

@[simp] theorem value?_unlogged (operand : Operand) :
    s.unlogged.value? operand = s.value? operand := by
  cases operand <;> rfl

@[simp] theorem function?_unlogged (operand : Operand) :
    s.unlogged.function? operand = s.function? operand := by
  rw [function?, value?_unlogged]
  rfl

theorem view_keepClosure {first second : Except Fault Closure × Context}
    (same : bare first = bare second) :
    view (s.keepClosure first) = view (s.unlogged.keepClosure second) := by
  obtain ⟨result, c⟩ := first
  obtain ⟨_, d⟩ := second
  obtain ⟨rfl, contexts⟩ := Prod.mk.inj same
  cases result with
  | error fault => exact congrArg (fun c => (Outcome.failed fault, s.after c)) contexts
  | ok f =>
      exact congrArg (fun c => (Outcome.closure f, { s with
        context := c
        closures := s.closures ++ [f] })) contexts

theorem view_settle {first second : Except Fault Unit × Context} (same : bare first = bare second) :
    view (s.settle first) = view (s.unlogged.settle second) := by
  obtain ⟨result, c⟩ := first
  obtain ⟨_, d⟩ := second
  obtain ⟨rfl, contexts⟩ := Prod.mk.inj same
  cases result with
  | error fault => exact congrArg (fun c => (Outcome.failed fault, s.after c)) contexts
  | ok done => exact congrArg (fun c => (Outcome.done, s.after c)) contexts

theorem view_observed {first second : Value × Context} (same : bare first = bare second) :
    view (s.observed first) = view (s.unlogged.observed second) := by
  obtain ⟨v, c⟩ := first
  obtain ⟨_, d⟩ := second
  obtain ⟨rfl, contexts⟩ := Prod.mk.inj same
  exact congrArg (fun c => (Outcome.value v, s.after c)) contexts

/-- Two operations that are the same up to what closures are called with. Both sets of arguments are
there for the session, or neither is and nothing is performed. -/
inductive Twins (s : Session) : Operation → Operation → Prop where
  | same (operation : Operation) : Twins s operation operation
  | invoked (i : Nat) {first second : Operand}
      (given : (s.value? first).isSome = (s.value? second).isSome) :
      Twins s (.invokeClosure i first) (.invokeClosure i second)
  | ran (capture : Operand) {first second : List Operand} (count : first.length = second.length)
      (given : (first.mapM s.value?).isSome = (second.mapM s.value?).isSome) :
      Twins s (.runProgram capture first) (.runProgram capture second)

theorem length_of_mapM {operands : List Operand} {values : List Value}
    (given : operands.mapM s.value? = some values) : values.length = operands.length := by
  induction operands generalizing values with
  | nil =>
      cases given
      rfl
  | cons operand rest ih =>
      rw [List.mapM_cons] at given
      obtain ⟨v, -, tail⟩ := Option.bind_eq_some_iff.mp given
      obtain ⟨vs, all, whole⟩ := Option.bind_eq_some_iff.mp tail
      cases whole
      rw [List.length_cons, List.length_cons, ih all]

-- What an operation looks up is there in both sessions or in neither.
theorem view_bind {α : Type} {x y : Option α} {f g : α → Option (Outcome × Session)}
    (given : x.isSome = y.isSome)
    (each : ∀ a b, x = some a → y = some b → (f a).map view = (g b).map view) :
    (x.bind f).map view = (y.bind g).map view := by
  cases x with
  | none =>
      cases y with
      | none => rfl
      | some b => cases given
  | some a =>
      cases y with
      | none => cases given
      | some b => exact each a b rfl rfl

theorem view_bind_same {α : Type} {x : Option α} {f g : α → Option (Outcome × Session)}
    (each : ∀ a, (f a).map view = (g a).map view) : (x.bind f).map view = (x.bind g).map view := by
  cases x with
  | none => rfl
  | some a => exact each a

theorem view_invokeClosure (i : Nat) {first second : Operand}
    (given : (s.value? first).isSome = (s.value? second).isSome) :
    (s.perform (.invokeClosure i first)).map view =
      (s.unlogged.perform (.invokeClosure i second)).map view := by
  simp only [perform, value?_unlogged]
  refine view_bind_same (x := s.closures[i]?) fun f => view_bind given ?_
  intro v w _ _
  exact congrArg some (s.view_keepClosure (f.bare_invoke s.context v w))

theorem view_runProgram (capture : Operand) {first second : List Operand}
    (count : first.length = second.length)
    (given : (first.mapM s.value?).isSome = (second.mapM s.value?).isSome) :
    (s.perform (.runProgram capture first)).map view =
      (s.unlogged.perform (.runProgram capture second)).map view := by
  have operands : s.unlogged.value? = s.value? := funext s.value?_unlogged
  simp only [perform, operands]
  refine view_bind_same fun v => view_bind given ?_
  intro values others one other
  have lengths : values.length = others.length := by
    rw [s.length_of_mapM one, s.length_of_mapM other, count]
  exact congrArg some (s.view_keepClosure (Program.bare_run s.context v lengths))

-- An operation shows the same with the log and without it.
theorem view_same (operation : Operation) :
    (s.perform operation).map view = (s.unlogged.perform operation).map view := by
  cases operation with
  | newObject name => rfl
  | newFunction name => rfl
  | newClosureFunction => rfl
  | newFactory func =>
      simp only [perform, function?_unlogged, Option.map_map]
      rfl
  | newAggregate => rfl
  | probeImplicit i =>
      refine view_bind_same (x := s.aggregates[i]?) fun a => ?_
      exact congrArg some (s.view_observed (a.bare_callProbe s.context _))
  | probeExplicit i receiver =>
      simp only [perform, value?_unlogged]
      refine view_bind_same (x := s.aggregates[i]?) fun a => view_bind_same fun v => ?_
      exact congrArg some (s.view_observed (a.bare_callProbe s.context _))
  | probeThrough i base =>
      simp only [perform, value?_unlogged]
      refine view_bind_same (x := s.aggregates[i]?) fun a => view_bind_same fun v => ?_
      exact congrArg some (s.view_observed (a.bare_callProbe s.context _))
  | callFactory i argument =>
      simp only [perform, value?_unlogged]
      refine view_bind_same (x := s.aggregates[i]?) fun a => view_bind_same fun v => ?_
      exact congrArg some (s.view_keepClosure (a.factory.bare_invoke s.context v))
  | invokeFactory i argument =>
      simp only [perform, value?_unlogged]
      refine view_bind_same (x := s.factories[i]?) fun f => view_bind_same fun v => ?_
      exact congrArg some (s.view_keepClosure (f.bare_invoke s.context v))
  | invokeClosure i argument => exact s.view_invokeClosure i rfl
  | runProgram capture arguments => exact s.view_runProgram capture rfl rfl
  | runFactoryOnly capture =>
      simp only [perform, value?_unlogged]
      refine view_bind_same fun v => ?_
      exact congrArg some (s.view_settle (Program.bare_factoryOnly s.context v))
  | enter func callType =>
      simp only [perform, function?_unlogged, Option.map_map]
      rfl
  | leave => exact congrArg (fun c => some (Outcome.done, s.after c)) s.context.unlogged_leave
  | emit value =>
      simp only [perform, value?_unlogged]
      refine view_bind_same fun v => ?_
      exact congrArg some (s.view_settle (s.context.bare_emit v))
  | observeReceiver callType receiver =>
      simp only [perform, value?_unlogged]
      exact view_bind_same fun v => rfl
  | flush => exact congrArg some (s.view_settle rfl)

theorem view_perform {first second : Operation} (twins : s.Twins first second) :
    (s.perform first).map view = (s.unlogged.perform second).map view := by
  cases twins with
  | same => exact s.view_same first
  | invoked i given => exact s.view_invokeClosure i given
  | ran capture count given => exact s.view_runProgram capture count given

inductive TwinRuns : Session → List Operation → List Operation → Prop where
  | nil (s : Session) : TwinRuns s [] []
  | cons {s : Session} {first second : Operation} {rest others : List Operation}
      (twins : s.Twins first second) (later : TwinRuns (s.step first) rest others) :
      TwinRuns s (first :: rest) (second :: others)

/-- What each operation shows: what it returned, unless it was not performed, and the session after it
but for the log. -/
def views (s : Session) : List Operation → List (Option Outcome × Session)
  | [] => []
  | operation :: rest =>
    ((s.perform operation).map Prod.fst, (s.step operation).unlogged) ::
      (s.step operation).views rest

variable {s}

theorem perform_twins {t : Session} {first second : Operation} (same : s.unlogged = t.unlogged)
    (twins : s.Twins first second) :
    (s.perform first).map view = (t.perform second).map view := by
  rw [s.view_perform twins, same]
  exact (t.view_same second).symm

theorem step_twins {t : Session} {first second : Operation} (same : s.unlogged = t.unlogged)
    (twins : s.Twins first second) :
    (s.perform first).map Prod.fst = (t.perform second).map Prod.fst ∧
      (s.step first).unlogged = (t.step second).unlogged := by
  have views := perform_twins same twins
  unfold step
  cases one : s.perform first with
  | none =>
      cases other : t.perform second with
      | none => exact ⟨rfl, same⟩
      | some answer => simp [one, other] at views
  | some answer =>
      cases other : t.perform second with
      | none => simp [one, other] at views
      | some last =>
          rw [one, other] at views
          obtain ⟨outcome, session⟩ := Prod.mk.inj (Option.some.inj views)
          exact ⟨congrArg some outcome, session⟩

theorem views_of_twinRuns {t : Session} {first second : List Operation}
    (twins : s.TwinRuns first second) (same : s.unlogged = t.unlogged) :
    s.views first = t.views second := by
  induction twins generalizing t with
  | nil s => rfl
  | cons twins _ ih =>
      obtain ⟨outcome, session⟩ := step_twins same twins
      rw [views, views, outcome, session, ih session]

/-- Two sessions from the same start, with operations that are the same up to what closures are called
with, show the same at every operation. -/
theorem closure_arguments_unobservable (mode : Mode) (sink : Sink) {first second : List Operation}
    (twins : (fresh mode sink).TwinRuns first second) :
    (fresh mode sink).views first = (fresh mode sink).views second :=
  views_of_twinRuns twins rfl

/-- A closure of a closure and a run that is cut, each called with other arguments: the logs differ. -/
theorem closure_arguments_unobservable_past_cut :
    let start := fresh .sloppy { limit := some 27 }
    let operations (argument : Operand) (arguments : List Operand) : List Operation :=
      [.newAggregate, .callFactory 0 (.constant .null), .invokeClosure 0 argument, .leave,
        .invokeClosure 1 argument, .runProgram (.captured 2) arguments, .emit (.closure 1)]
    let first := operations (.constant (.text "a")) [.ambient, .constant .undefined, .constant .null]
    let second := operations (.holder 0) [.closure 0, .closure 1, .exports]
    start.TwinRuns first second ∧ start.views first = start.views second ∧
      (start.runAll first).context.log ≠ (start.runAll second).context.log := by
  intro start operations first second
  have twins : start.TwinRuns first second := by
    refine .cons (.same _) (.cons (.same _) (.cons (.invoked 0 ?_) (.cons (.same _)
      (.cons (.invoked 1 ?_) (.cons (.ran _ rfl ?_) (.cons (.same _) (.nil _)))))))
    all_goals decide +kernel
  refine ⟨twins, closure_arguments_unobservable .sloppy { limit := some 27 } twins, ?_⟩
  decide +kernel

end Session
end CaptureProbe
