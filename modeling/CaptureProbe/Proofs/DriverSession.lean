import CaptureProbe.Proofs.OutputTrace
import CaptureProbe.Proofs.Recording

/-!
Sessions at the level of the driver: aggregates are made, and the probes, factories and closures that
the session itself got are called from the top level. What such a session does is read off its
operations as a chronicle, the calls inside of program runs included, and its context holds the
records of that chronicle, whatever the sink takes.
-/

namespace CaptureProbe

/-- The operations of the driver; the others act on the context directly. -/
def Operation.isDriver : Operation → Bool
  | .newAggregate => true
  | .probeImplicit _ => true
  | .probeExplicit _ _ => true
  | .probeThrough _ _ => true
  | .callFactory _ _ => true
  | .invokeClosure _ _ => true
  | .runProgram _ _ => true
  | .runFactoryOnly _ => true
  | _ => false

namespace Session

def events? (s : Session) : Operation → Option (List Event)
  | .newAggregate => some [.made (Aggregate.make s.context).1]
  | .probeImplicit i => do
    let a ← s.aggregates[i]?
    pure [.probed a (.implicit (.object a.holder))]
  | .probeExplicit i receiver => do
    let a ← s.aggregates[i]?
    let v ← s.value? receiver
    pure [.probed a (.explicit v)]
  | .probeThrough i base => do
    let a ← s.aggregates[i]?
    let v ← s.value? base
    pure [.probed a (.implicit v)]
  | .callFactory i argument => do
    let a ← s.aggregates[i]?
    let v ← s.value? argument
    pure [.called a v (a.callFactory v s.context).1]
  | .invokeClosure i argument => do
    let f ← s.closures[i]?
    let v ← s.value? argument
    pure [.invoked f v (f.invoke v s.context).1]
  | .runProgram capture arguments => do
    let v ← s.value? capture
    let vs ← arguments.mapM s.value?
    pure (Program.events v vs s.context)
  | .runFactoryOnly capture => do
    let v ← s.value? capture
    pure (Program.factoryOnlyEvents v s.context)
  | _ => none

def chronicle (s : Session) : List Operation → List Event
  | [] => []
  | operation :: rest => (s.events? operation).getD [] ++ (s.step operation).chronicle rest

/-- What a driver operation does once what it names is found: the value whose lines it writes, its
events and its answer. -/
inductive Happens (s : Session) : Option Value → List Event → Outcome × Session → Prop where
  | made : Happens s none [.made (Aggregate.make s.context).1]
      (.aggregate (Aggregate.make s.context).1, { s with
        context := (Aggregate.make s.context).2
        aggregates := s.aggregates ++ [(Aggregate.make s.context).1]
        factories := s.factories ++ [(Aggregate.make s.context).1.factory] })
  | probed {a : Aggregate} (member : a ∈ s.aggregates) (form : CallForm) :
      Happens s none [.probed a form] (s.observed (a.callProbe form s.context))
  | called {a : Aggregate} (member : a ∈ s.aggregates) (v : Value) :
      Happens s (some v) [.called a v (a.callFactory v s.context).1]
        (s.keepClosure (a.callFactory v s.context))
  | invoked {f : Closure} (member : f ∈ s.closures) (v : Value) :
      Happens s (some f.captured) [.invoked f v (f.invoke v s.context).1]
        (s.keepClosure (f.invoke v s.context))
  | ran (v : Value) (values : List Value) :
      Happens s (some v) (Program.events v values s.context)
        (s.keepClosure (Program.run v values s.context))
  | ranFactory (v : Value) :
      Happens s (some v) (Program.factoryOnlyEvents v s.context)
        (s.settle (Program.factoryOnly v s.context))

theorem driver_cases (s : Session) {operation : Operation} (driver : operation.isDriver = true) :
    (s.perform operation = none ∧ s.events? operation = none) ∨
      ∃ answer more, s.perform operation = some answer ∧ s.events? operation = some more ∧
        s.Happens (s.emission? operation) more answer := by
  cases operation with
  | newAggregate => exact Or.inr ⟨_, _, rfl, rfl, .made⟩
  | probeImplicit i =>
      cases found : s.aggregates[i]? with
      | none => exact Or.inl (by simp [perform, events?, found])
      | some a =>
          have member := List.mem_of_getElem? found
          refine Or.inr ⟨s.observed (a.probeImplicit s.context),
            [.probed a (.implicit (.object a.holder))], ?_, ?_, .probed member _⟩
          · simp [perform, found]
          · simp [events?, found]
  | probeExplicit i receiver =>
      cases found : s.aggregates[i]? with
      | none => exact Or.inl (by simp [perform, events?, found])
      | some a =>
          have member := List.mem_of_getElem? found
          cases given : s.value? receiver with
          | none => exact Or.inl (by simp [perform, events?, given])
          | some v =>
              refine Or.inr ⟨s.observed (a.probeExplicit v s.context), [.probed a (.explicit v)],
                ?_, ?_, .probed member _⟩
              · simp [perform, found, given]
              · simp [events?, found, given]
  | probeThrough i base =>
      cases found : s.aggregates[i]? with
      | none => exact Or.inl (by simp [perform, events?, found])
      | some a =>
          have member := List.mem_of_getElem? found
          cases given : s.value? base with
          | none => exact Or.inl (by simp [perform, events?, given])
          | some v =>
              refine Or.inr ⟨s.observed (a.callProbe (.implicit v) s.context),
                [.probed a (.implicit v)], ?_, ?_, .probed member _⟩
              · simp [perform, found, given]
              · simp [events?, found, given]
  | callFactory i argument =>
      cases found : s.aggregates[i]? with
      | none => exact Or.inl (by simp [perform, events?, found])
      | some a =>
          have member := List.mem_of_getElem? found
          cases given : s.value? argument with
          | none => exact Or.inl (by simp [perform, events?, given])
          | some v =>
              have emits : s.emission? (.callFactory i argument) = some v := by
                simp [emission?, found, given]
              rw [emits]
              refine Or.inr ⟨_, _, ?_, ?_, .called member v⟩
              · simp [perform, found, given]
              · simp [events?, found, given]
  | invokeClosure i argument =>
      cases found : s.closures[i]? with
      | none => exact Or.inl (by simp [perform, events?, found])
      | some f =>
          have member := List.mem_of_getElem? found
          cases given : s.value? argument with
          | none => exact Or.inl (by simp [perform, events?, given])
          | some v =>
              have emits : s.emission? (.invokeClosure i argument) = some f.captured := by
                simp [emission?, found, given]
              rw [emits]
              refine Or.inr ⟨_, _, ?_, ?_, .invoked member v⟩
              · simp [perform, found, given]
              · simp [events?, found, given]
  | runProgram capture arguments =>
      cases given : s.value? capture with
      | none => exact Or.inl (by simp [perform, events?, given])
      | some v =>
          cases all : arguments.mapM s.value? with
          | none => exact Or.inl (by simp [perform, events?, all])
          | some values =>
              have emits : s.emission? (.runProgram capture arguments) = some v := by
                simp [emission?, given, all]
              rw [emits]
              refine Or.inr ⟨_, _, ?_, ?_, .ran v values⟩
              · simp [perform, given, all]
              · simp [events?, given, all]
  | runFactoryOnly capture =>
      cases given : s.value? capture with
      | none => exact Or.inl (by simp [perform, events?, given])
      | some v =>
          have emits : s.emission? (.runFactoryOnly capture) = some v := given
          rw [emits]
          refine Or.inr ⟨_, _, ?_, ?_, .ranFactory v⟩
          · simp [perform, given]
          · simp [events?, given]
  | _ => cases driver

/-- A session whose context has the records of a chronicle, and whose aggregates and closures the
chronicle knows. -/
structure Chronicled (events : List Event) (s : Session) : Prop where
  records : Records events s.context
  aggregates : ∀ a ∈ s.aggregates, .made a ∈ events
  closures : ∀ f ∈ s.closures, f ∈ Chronicle.returned events

namespace Chronicled

variable {events more : List Event} {s : Session}

theorem fresh (mode : Mode) (sink : Sink) : Chronicled [] (Session.fresh mode sink) where
  records := Records.fresh mode sink
  aggregates := by
    intro a member
    cases member
  closures := by
    intro f member
    cases member

theorem after {c : Context} (chronicled : Chronicled events s) (records : Records (events ++ more) c) :
    Chronicled (events ++ more) (s.after c) where
  records := records
  aggregates := fun a member => List.mem_append_left _ (chronicled.aggregates a member)
  closures := fun f member =>
    Chronicle.returned_mono (List.subset_append_left _ _) (chronicled.closures f member)

theorem settle {answer : Except Fault Unit × Context} (chronicled : Chronicled events s)
    (records : Records (events ++ more) answer.2) :
    Chronicled (events ++ more) (s.settle answer).2 := by
  rcases answer with ⟨_ | _, c⟩
  · exact chronicled.after records
  · exact chronicled.after records

theorem keepClosure {answer : Except Fault Closure × Context} (chronicled : Chronicled events s)
    (records : Records (events ++ more) answer.2)
    (back : ∀ f, answer.1 = .ok f → f ∈ Chronicle.returned more) :
    Chronicled (events ++ more) (s.keepClosure answer).2 := by
  rcases answer with ⟨fault | f, c⟩
  · exact chronicled.after records
  · refine ⟨records, (chronicled.after records).aggregates, ?_⟩
    intro g member
    rcases List.mem_append.mp member with kept | new
    · exact (chronicled.after records).closures g kept
    · rw [List.mem_singleton.mp new, Chronicle.returned_append]
      exact List.mem_append_right _ (back f rfl)

theorem makeAggregate (chronicled : Chronicled events s) :
    Chronicled (events ++ [.made (Aggregate.make s.context).1]) (s.step .newAggregate) := by
  have records := chronicled.records.make
  refine ⟨records, ?_, (chronicled.after records).closures⟩
  intro a member
  rcases List.mem_append.mp member with kept | new
  · exact (chronicled.after records).aggregates a kept
  · rw [List.mem_singleton.mp new]
    exact List.mem_append_right _ (List.mem_singleton_self _)

-- An operation that names something the session does not have changes nothing and adds no event.
theorem step (chronicled : Chronicled events s) {operation : Operation}
    (driver : operation.isDriver = true) :
    Chronicled (events ++ (s.events? operation).getD []) (s.step operation) := by
  rcases s.driver_cases driver with ⟨nothing, unseen⟩ | ⟨answer, more, performed, seen, happens⟩
  · rw [Session.step, nothing, unseen, Option.getD_none, List.append_nil]
    exact chronicled
  · rw [step_of_performed performed, seen, Option.getD_some]
    generalize s.emission? operation = emission at happens
    cases happens with
    | made => exact chronicled.makeAggregate
    | probed member form =>
        exact chronicled.after (chronicled.records.probe (chronicled.aggregates _ member) form)
    | called member v =>
        apply chronicled.keepClosure
          (chronicled.records.call (chronicled.aggregates _ member) v)
        intro f result
        rw [result]
        exact List.mem_singleton_self f
    | invoked member v =>
        apply chronicled.keepClosure (chronicled.records.invoke (chronicled.closures _ member) v)
        intro f result
        rw [result]
        exact List.mem_singleton_self f
    | ran v values =>
        apply chronicled.keepClosure (Program.run_recorded v values chronicled.records)
        intro f result
        exact Program.returned_events result
    | ranFactory v => exact chronicled.settle (Program.factoryOnly_recorded v chronicled.records)

theorem runAll (operations : List Operation) (chronicled : Chronicled events s)
    (driver : ∀ operation ∈ operations, operation.isDriver = true) :
    Chronicled (events ++ s.chronicle operations) (s.runAll operations) := by
  induction operations generalizing events s with
  | nil =>
      rw [chronicle, List.append_nil]
      exact chronicled
  | cons operation rest ih =>
      have next := chronicled.step (driver operation List.mem_cons_self)
      have tail := ih next fun later member => driver later (List.mem_cons_of_mem _ member)
      rw [List.append_assoc] at tail
      exact tail

end Chronicled

-- A failed call ends its operation, so an operation has at most one.
theorem failed_events? (s : Session) {operation : Operation} (driver : operation.isDriver = true) :
    ((s.events? operation).getD []).countP Event.failed =
      (s.failedEmission? operation).toList.length := by
  rcases s.driver_cases driver with ⟨nothing, unseen⟩ | ⟨answer, more, performed, seen, happens⟩
  · rw [failedEmission?, nothing, unseen]
    rfl
  · rw [seen, Option.getD_some]
    cases emits : s.emission? operation with
    | none =>
        rw [failedEmission?_of_quiet emits]
        rw [emits] at happens
        cases happens <;> rfl
    | some v =>
        have fails : more.countP Event.failed = answer.1.fails.toNat := by
          rw [emits] at happens
          cases happens with
          | called member v =>
              rw [fails_keepClosure, List.countP_singleton]
              cases (Aggregate.callFactory _ v s.context).1 <;> rfl
          | invoked member v =>
              rw [fails_keepClosure, List.countP_singleton]
              cases (Closure.invoke _ v s.context).1 <;> rfl
          | ran v values =>
              rw [fails_keepClosure]
              exact Program.failed_events v values s.context
          | ranFactory v =>
              rw [fails_settle]
              exact Program.failed_factoryOnlyEvents v s.context
        rw [fails, failedEmission?_of_emission emits performed]
        cases answer.1.fails <;> rfl

theorem failed_chronicle (operations : List Operation) (s : Session)
    (driver : ∀ operation ∈ operations, operation.isDriver = true) :
    (s.chronicle operations).countP Event.failed = (s.failedEmissions operations).length := by
  induction operations generalizing s with
  | nil => rfl
  | cons operation rest ih =>
      rw [chronicle, failedEmissions, List.countP_append, List.length_append,
        failed_events? s (driver operation List.mem_cons_self),
        ih _ fun later member => driver later (List.mem_cons_of_mem _ member)]

end Session
end CaptureProbe
