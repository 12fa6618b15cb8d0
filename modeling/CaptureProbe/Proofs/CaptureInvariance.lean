import Mathlib
import CaptureProbe.Proofs.DriverSession
import CaptureProbe.Proofs.RecordedGraph

/-!
What closures capture is kept and kept apart. A closure goes back to one factory call through any
number of closure calls, and has the value of that call. Emissions are attributed by the name of the
caller only, so that a closure gets its own emissions and no others rests on names: those of closures
carry their id, and no other function is named like a closure.
-/

namespace CaptureProbe

namespace Event

def invokes (f : Closure) : Event → Bool
  | .invoked g _ _ => decide (g = f)
  | _ => false

def emitsFor (f : Closure) : Event → Bool
  | .invoked g _ (.ok _) => decide (g = f)
  | _ => false

def topEmission? : Event → Option Value
  | .called _ n (.ok _) => some n
  | _ => none

end Event

theorem Context.closureName_injective : Function.Injective closureName := by
  intro first second same
  apply Nat.repr_injective
  exact (String.append_right_inj "closure#").mp same

namespace Chronicle

variable {events : List Event}

theorem Valid.closure_of_name (valid : Valid events) {f g : Closure} (first : f ∈ returned events)
    (second : g ∈ returned events) (same : f.func.name = g.func.name) : f = g := by
  rw [valid.name_of_returned first, valid.name_of_returned second] at same
  exact valid.returned_unique first second (Context.closureName_injective same)

-- Some events give one and the same entry, the others give none.
theorem flatMap_eq_replicate {α : Type} (entries : Event → List α) (gives : Event → Bool) (entry : α)
    (same : ∀ event ∈ events, entries event = if gives event then [entry] else []) :
    events.flatMap entries = List.replicate (events.countP gives) entry := by
  induction events with
  | nil => rfl
  | cons event rest ih =>
      have tail := ih fun later member => same later (List.mem_cons_of_mem _ member)
      rw [List.flatMap_cons, same event List.mem_cons_self, tail]
      by_cases given : gives event = true
      · rw [if_pos given, List.countP_cons_of_pos given, List.replicate_succ]
        rfl
      · rw [if_neg given, List.countP_cons_of_neg given]
        rfl

end Chronicle

namespace Records

variable {events : List Event} {c : Context}

theorem emittedBy (records : Records events c) (name : String) :
    c.trace.emittedBy name = events.flatMap fun event =>
      event.sightings.filterMap fun sighting => (sighting.observation 0).emissionBy? name := by
  rw [← List.filterMap_flatMap]
  apply records.view_observations
  intro i sighting
  cases sighting <;> rfl

theorem emittedBy_closure (records : Records events c) {f : Closure}
    (back : f ∈ Chronicle.returned events) :
    c.trace.emittedBy f.func.name =
      List.replicate (events.countP (Event.emitsFor f)) f.captured := by
  rw [records.emittedBy]
  apply Chronicle.flatMap_eq_replicate
  intro event happened
  cases event with
  | made a => rfl
  | probed a form => rfl
  | called a n result =>
      cases result with
      | error fault => rfl
      | ok g =>
          -- this emission goes to the top level, whose name no closure has
          have other : FuncRef.top.name ≠ f.func.name := by
            rw [records.valid.name_of_returned back]
            exact (Chronicle.closureName_ne _ (by decide)).symm
          simp [Event.sightings, Sighting.observation, Observation.emissionBy?, Event.emitsFor, other]
  | invoked g argument result =>
      cases result with
      | error fault => rfl
      | ok h =>
          by_cases same : g = f
          · simp [Event.sightings, Sighting.observation, Observation.emissionBy?, Event.emitsFor, same]
          · -- another closure has another id, and with it another name
            have other : g.func.name ≠ f.func.name := by
              intro name
              have parent := records.valid.returned_of_invoked happened
              exact same (records.valid.closure_of_name parent back name)
            simp [Event.sightings, Sighting.observation, Observation.emissionBy?, Event.emitsFor, same,
              other]

theorem emittedBy_top (records : Records events c) :
    c.trace.emittedBy FuncRef.top.name = events.filterMap Event.topEmission? := by
  rw [records.emittedBy, List.filterMap_eq_flatMap_toList _ events]
  apply List.flatMap_congr
  intro event happened
  cases event with
  | made a => rfl
  | probed a form => rfl
  | called a n result =>
      cases result with
      | error fault => rfl
      | ok f => rfl
  | invoked g argument result =>
      cases result with
      | error fault => rfl
      | ok h =>
          have other : g.func.name ≠ FuncRef.top.name := by
            rw [records.valid.name_of_returned (records.valid.returned_of_invoked happened)]
            exact Chronicle.closureName_ne _ (by decide)
          simp [Event.sightings, Sighting.observation, Observation.emissionBy?, Event.topEmission?,
            other]

theorem callees_closure (records : Records events c) {f : Closure}
    (back : f ∈ Chronicle.returned events) :
    c.graph.callees f.func.id =
      List.replicate (events.countP (Event.invokes f)) f.factory.func := by
  have calls := CallGraph.callees_record (CallGraph.empty.addNode .top) rfl 0
    (Chronicle.calls events) f.func.id
  rw [← records.graph, Chronicle.calls, List.filterMap_flatMap] at calls
  rw [calls]
  apply Chronicle.flatMap_eq_replicate
  intro event happened
  have top : FuncRef.top.id ≠ f.func.id :=
    (records.valid.given_ne_top (Chronicle.given_of_returned back)).symm
  cases event with
  | made a => rfl
  | probed a form => simp [Event.calls, Event.invokes, top]
  | called a n result => simp [Event.calls, Event.invokes, top]
  | invoked g argument result =>
      have parent := records.valid.returned_of_invoked happened
      by_cases same : g = f
      · have inner : ⟨g.func, g.factory.func, .direct⟩ ∈ Chronicle.calls events :=
          List.mem_flatMap.mpr ⟨_, happened, List.mem_cons_of_mem _ (List.mem_singleton_self _)⟩
        have factory := records.node? (Chronicle.mentions_of_call inner).2
        simp only [same] at factory
        simp [Event.calls, Event.invokes, top, same, factory]
      · have other : g.func.id ≠ f.func.id := by
          intro id
          exact same (records.valid.returned_unique parent back id)
        simp [Event.calls, Event.invokes, top, same, other]

end Records

/-- What holds of a closure that a session was given, however it came about and whatever else was
called in between. -/
structure Captures (events : List Event) (c : Context) (f : Closure) : Prop where
  root : ∃ a, Chronicle.Rooted events a f.captured f
  kept : ∀ a n, Chronicle.Rooted events a n f → f.captured = n ∧ f.factory = a.factory
  emissions : c.trace.emittedBy f.func.name =
    List.replicate (events.countP (Event.emitsFor f)) f.captured
  callees : c.graph.callees f.func.id =
    List.replicate (events.countP (Event.invokes f)) f.factory.func

theorem Records.captures {events : List Event} {c : Context} (records : Records events c)
    {f : Closure} (back : f ∈ Chronicle.returned events) : Captures events c f where
  root := by
    obtain ⟨a, n, rooted⟩ := records.valid.rooted back
    refine ⟨a, ?_⟩
    rw [(rooted.kept records.valid).1]
    exact rooted
  kept := fun a n rooted => rooted.kept records.valid
  emissions := records.emittedBy_closure back
  callees := records.callees_closure back

/-- After any driver operations, in any mode and into any sink: every closure that a call returned has
the value of the factory call at its root, emits that value at each call that succeeds and calls its
factory at each call of it; and the top level has the emissions of its own factory calls. -/
theorem Session.captures_are_invariant (mode : Mode) (sink : Sink) (operations : List Operation)
    (driver : ∀ operation ∈ operations, operation.isDriver = true) :
    let start := fresh mode sink
    let events := start.chronicle operations
    let s := start.runAll operations
    (∀ f ∈ s.closures, f ∈ Chronicle.returned events) ∧
      (∀ f ∈ Chronicle.returned events, Captures events s.context f) ∧
      s.context.trace.emittedBy "<top>" = events.filterMap Event.topEmission? := by
  intro start events s
  have chronicled : Chronicled events s := (Chronicled.fresh mode sink).runAll operations driver
  refine ⟨chronicled.closures, ?_, chronicled.records.emittedBy_top⟩
  intro f back
  exact chronicled.records.captures back

/-- Two factory calls, a closure of a closure, and a last call of it whose line is cut. -/
theorem Session.captures_along_chain :
    let operations : List Operation := [.newAggregate, .callFactory 0 (.constant .null),
      .callFactory 0 (.constant (.bool true)), .invokeClosure 0 (.constant .undefined),
      .invokeClosure 2 (.captured 1), .invokeClosure 2 .ambient]
    let start := fresh .strict { limit := some 22 }
    let s := start.runAll operations
    (∀ operation ∈ operations, operation.isDriver = true) ∧
      s.closures.map Closure.captured = [.null, .bool true, .null, .null] ∧
      (∀ f ∈ s.closures, Captures (start.chronicle operations) s.context f) ∧
      (start.chronicle operations).filterMap Event.topEmission? = [.null, .bool true] ∧
      s.context.trace.emittedBy "<top>" = [.null, .bool true] := by
  intro operations start s
  have driver : ∀ operation ∈ operations, operation.isDriver = true := by decide
  have captured : s.closures.map Closure.captured = [.null, .bool true, .null, .null] := by
    decide +kernel
  have given : (start.chronicle operations).filterMap Event.topEmission? = [.null, .bool true] := by
    decide +kernel
  obtain ⟨closures, captures, top⟩ :=
    captures_are_invariant .strict { limit := some 22 } operations driver
  refine ⟨driver, captured, ?_, given, top.trans given⟩
  intro f member
  exact captures f (closures f member)

end CaptureProbe
