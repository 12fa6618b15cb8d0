import CaptureProbe.Proofs.SessionStep

/-!
Properties of contexts that every operation keeps. The calls of aggregates, factories, closures and
programs are put together from a few operations of the context itself, so a property that those keep
is kept by every operation of a session, and holds after any list of them.
-/

namespace CaptureProbe

/-- The operations that all others are put together from keep a property. -/
structure Context.Kept (P : Context → Prop) : Prop where
  note {c : Context} (holds : P c) (level : Log.Level) (origin : Log.Origin) (message : String) :
    P (c.note level origin message)
  newObject {c : Context} (holds : P c) (name : String) : P (c.newObject name).2
  newFunction {c : Context} (holds : P c) (name : String) : P (c.newFunction name).2
  enter {c : Context} (holds : P c) (callee : FuncRef) (callType : CallType) :
    P (c.enter callee callType)
  leave {c : Context} (holds : P c) : P c.leave
  emit {c : Context} (holds : P c) (value : Value) : P (c.emit value).2
  observeReceiver {c : Context} (holds : P c) (callType : CallType) (receiver : Value) :
    P (c.observeReceiver callType receiver)

namespace Context.Kept

variable {P : Context → Prop} {c : Context}

theorem make (kept : Kept P) (holds : P c) : P (Aggregate.make c).2 := by
  have objects := kept.newObject (kept.newObject holds "aggregate") "probe"
  exact kept.newFunction (kept.newFunction objects "probe") "factory"

theorem callProbe (kept : Kept P) (holds : P c) (a : Aggregate) (form : CallForm) :
    P (a.callProbe form c).2 := by
  have entered := kept.enter holds a.probe form.callType
  exact kept.leave (kept.observeReceiver entered form.callType form.receiver)

theorem body (kept : Kept P) (holds : P c) (f : Factory) (n : Value) : P (f.body n c).2 := by
  have emitted := kept.emit holds n
  unfold Factory.body
  generalize c.emit n = answer at emitted
  rcases answer with ⟨fault | done, d⟩
  · exact emitted
  · exact kept.note (kept.newFunction emitted (closureName d.nextFunction)) _ _ _

theorem factoryInvoke (kept : Kept P) (holds : P c) (f : Factory) (n : Value) :
    P (f.invoke n c).2 := by
  have entered := kept.enter holds f.func .direct
  exact kept.leave (kept.body entered f n)

theorem closureInvoke (kept : Kept P) (holds : P c) (f : Closure) (argument : Value) :
    P (f.invoke argument c).2 := by
  have entered := kept.note (kept.enter holds f.func .closure) .trace .closures
    (f.func.name ++ " ignores its argument " ++ argument.display)
  exact kept.leave (kept.factoryInvoke entered f.factory f.captured)

theorem invokeEach (kept : Kept P) (holds : P c) (f : Closure) (arguments : List Value) :
    P (Program.invokeEach f arguments c).2 := by
  induction arguments generalizing c with
  | nil => exact holds
  | cons argument rest ih =>
      have called := kept.closureInvoke holds f argument
      unfold Program.invokeEach
      generalize f.invoke argument c = answer at called
      rcases answer with ⟨fault | closure, d⟩
      · exact called
      · exact ih called

theorem prepared (kept : Kept P) (holds : P c) : P (Program.prepared c) := by
  have implicit := kept.callProbe (kept.make holds) (Aggregate.next c)
    (.implicit (.object (Aggregate.next c).holder))
  exact kept.note (kept.callProbe implicit (Aggregate.next c) (.explicit _)) _ _ _

theorem run (kept : Kept P) (holds : P c) (capture : Value) (arguments : List Value) :
    P (Program.run capture arguments c).2 := by
  have called := kept.factoryInvoke (kept.prepared holds) (Aggregate.next c).factory capture
  rw [Program.run_eq]
  generalize (Aggregate.next c).factory.invoke capture (Program.prepared c) = answer at called
  rcases answer with ⟨fault | f, d⟩
  · exact called
  · have each := kept.invokeEach called f arguments
    dsimp only
    generalize Program.invokeEach f arguments d = last at each
    rcases last with ⟨fault | done, e⟩
    · exact each
    · exact each

theorem factoryOnly (kept : Kept P) (holds : P c) (capture : Value) :
    P (Program.factoryOnly capture c).2 := by
  rw [Program.factoryOnly_eq]
  exact kept.factoryInvoke (kept.make holds) (Aggregate.next c).factory capture

end Context.Kept

namespace Session

variable {P : Context → Prop} {s next : Session} {outcome : Outcome}

theorem holds_of_keepClosure {answer : Except Fault Closure × Context} (holds : P answer.2)
    (same : some (s.keepClosure answer) = some (outcome, next)) : P next.context := by
  have context := s.context_keepClosure answer
  rw [Option.some.inj same] at context
  rw [context]
  exact holds

theorem holds_of_settle {answer : Except Fault Unit × Context} (holds : P answer.2)
    (same : some (s.settle answer) = some (outcome, next)) : P next.context := by
  have context := s.context_settle answer
  rw [Option.some.inj same] at context
  rw [context]
  exact holds

theorem step_kept (kept : Context.Kept P) (holds : P s.context)
    (operation : Operation) : P (s.step operation).context := by
  rcases s.step_cases operation with same | ⟨outcome, performed⟩
  · rw [same]
    exact holds
  · generalize s.step operation = next at performed ⊢
    cases operation with
    | newObject name =>
        cases performed
        exact kept.newObject holds name
    | newFunction name =>
        cases performed
        exact kept.newFunction holds name
    | newClosureFunction =>
        cases performed
        exact kept.newFunction holds (Context.closureName s.context.nextFunction)
    | newFactory func =>
        obtain ⟨f, -, answer⟩ := Option.map_eq_some_iff.mp performed
        cases answer
        exact holds
    | newAggregate =>
        cases performed
        exact kept.make holds
    | probeImplicit i =>
        obtain ⟨a, -, answer⟩ := Option.bind_eq_some_iff.mp performed
        cases answer
        exact kept.callProbe holds a _
    | probeExplicit i receiver =>
        obtain ⟨a, -, rest⟩ := Option.bind_eq_some_iff.mp performed
        obtain ⟨v, -, answer⟩ := Option.bind_eq_some_iff.mp rest
        cases answer
        exact kept.callProbe holds a _
    | probeThrough i base =>
        obtain ⟨a, -, rest⟩ := Option.bind_eq_some_iff.mp performed
        obtain ⟨v, -, answer⟩ := Option.bind_eq_some_iff.mp rest
        cases answer
        exact kept.callProbe holds a _
    | callFactory i argument =>
        obtain ⟨a, -, rest⟩ := Option.bind_eq_some_iff.mp performed
        obtain ⟨v, -, answer⟩ := Option.bind_eq_some_iff.mp rest
        exact holds_of_keepClosure (kept.factoryInvoke holds a.factory v) answer
    | invokeFactory i argument =>
        obtain ⟨f, -, rest⟩ := Option.bind_eq_some_iff.mp performed
        obtain ⟨v, -, answer⟩ := Option.bind_eq_some_iff.mp rest
        exact holds_of_keepClosure (kept.factoryInvoke holds f v) answer
    | invokeClosure i argument =>
        obtain ⟨f, -, rest⟩ := Option.bind_eq_some_iff.mp performed
        obtain ⟨v, -, answer⟩ := Option.bind_eq_some_iff.mp rest
        exact holds_of_keepClosure (kept.closureInvoke holds f v) answer
    | runProgram capture arguments =>
        obtain ⟨v, -, rest⟩ := Option.bind_eq_some_iff.mp performed
        obtain ⟨values, -, answer⟩ := Option.bind_eq_some_iff.mp rest
        exact holds_of_keepClosure (kept.run holds v values) answer
    | runFactoryOnly capture =>
        obtain ⟨v, -, answer⟩ := Option.bind_eq_some_iff.mp performed
        exact holds_of_settle (kept.factoryOnly holds v) answer
    | enter func callType =>
        obtain ⟨f, -, answer⟩ := Option.map_eq_some_iff.mp performed
        cases answer
        exact kept.enter holds f callType
    | leave =>
        cases performed
        exact kept.leave holds
    | emit value =>
        obtain ⟨v, -, answer⟩ := Option.bind_eq_some_iff.mp performed
        exact holds_of_settle (kept.emit holds v) answer
    | observeReceiver callType receiver =>
        obtain ⟨v, -, answer⟩ := Option.bind_eq_some_iff.mp performed
        cases answer
        exact kept.observeReceiver holds callType v
    | flush =>
        have flushed : P (s.context.flush, s.context).2 := holds
        exact holds_of_settle flushed performed

theorem runAll_kept (kept : Context.Kept P) (holds : P s.context)
    (operations : List Operation) : P (s.runAll operations).context := by
  induction operations generalizing s with
  | nil => exact holds
  | cons operation rest ih => exact ih (step_kept kept holds operation)

end Session
end CaptureProbe
