import CaptureProbe.Proofs.SessionStep

/-!
The records of a context are a history: nothing that stands in them is changed or taken away. Every call
that is made as a whole gives the call stack back as it found it, also when it ends in a fault in the
middle, and adds to the records at their end only. A function that is mentioned again keeps its node,
whatever name it comes with.
-/

namespace CaptureProbe

namespace CallGraph

theorem nodes_extend (g : CallGraph) (first : Nat) (calls : List Call) :
    g.nodes <+: (g.record first calls).nodes := by
  induction calls generalizing g first with
  | nil => exact List.prefix_refl _
  | cons call rest ih =>
      have one := g.nodes_addEdge ⟨first, call.callType⟩ call.caller call.callee
      exact one.trans (ih _ (first + 1))

-- A function that has a node keeps its position among longer nodes.
theorem index?_of_extends {g h : CallGraph} (nodes : g.nodes <+: h.nodes) {id position : Nat}
    (found : g.index? id = some position) : h.index? id = some position := by
  obtain ⟨more, same⟩ := nodes
  unfold index? at found ⊢
  rw [← same, List.findIdx?_append, found]
  rfl

end CallGraph

namespace Context

/-- The records of one context go on from those of another, with the same functions executing. -/
structure Extends (c d : Context) : Prop where
  stack : d.stack = c.stack
  realm : d.realm = c.realm
  trace : c.trace.observations <+: d.trace.observations
  nodes : c.graph.nodes <+: d.graph.nodes
  positions : ∀ id position, c.graph.index? id = some position → d.graph.index? id = some position
  edges : c.graph.edges <+: d.graph.edges
  output : c.sink.written <+: d.sink.written
  nextObject : c.nextObject ≤ d.nextObject
  nextFunction : c.nextFunction ≤ d.nextFunction
  nextSite : c.nextSite ≤ d.nextSite

-- What comes about by a growth goes on from what was there.
theorem Grows.toExtends {c d : Context} {g : Growth} (grows : c.Grows g d) : c.Extends d := by
  have nodes : c.graph.nodes <+: d.graph.nodes := by
    rw [grows.graph]
    exact c.graph.nodes_extend c.nextSite g.calls
  constructor
  · rw [stack, stack, grows.calls]
  · exact grows.realm
  · rw [grows.trace]
    exact List.prefix_append _ _
  · exact nodes
  · intro id position found
    exact CallGraph.index?_of_extends nodes found
  · rw [grows.edges]
    exact List.prefix_append _ _
  · rw [grows.sink]
    exact List.prefix_append _ _
  · rw [grows.nextObject]
    exact Nat.le_add_right _ _
  · rw [grows.nextFunction]
    exact Nat.le_add_right _ _
  · rw [grows.nextSite]
    exact Nat.le_add_right _ _

end Context

theorem Program.factoryOnly_grows (capture : Value) (c : Context) :
    c.Grows
      ({ objects := 2, functions := 2 } ++
        .emission c.sink [⟨c.current, (Aggregate.next c).factory.func, .direct⟩] c.current capture)
      (factoryOnly capture c).2 := by
  have made := Aggregate.make_grows c
  have call := (Aggregate.next c).factory.invoke_grows capture (Aggregate.make c).2
  rw [factoryOnly_eq]
  exact made.trans call

/-- From any context, whatever is executing in it, and into any sink: making an aggregate, a call of a
probe, a factory or a closure, and a run of either program keep the stack and the realm and only add to
the records, if they succeed and if they fail. -/
theorem Context.history_is_appended (c : Context) :
    c.Extends (Aggregate.make c).2 ∧
      (∀ (a : Aggregate) (form : CallForm), c.Extends (a.callProbe form c).2) ∧
      (∀ (f : Factory) (n : Value), c.Extends (f.invoke n c).2) ∧
      (∀ (f : Closure) (argument : Value), c.Extends (f.invoke argument c).2) ∧
      (∀ (capture : Value) (arguments : List Value),
        c.Extends (Program.run capture arguments c).2) ∧
      ∀ capture : Value, c.Extends (Program.factoryOnly capture c).2 := by
  refine ⟨(Aggregate.make_grows c).toExtends, ?_, ?_, ?_, ?_, ?_⟩
  · intro a form
    exact (a.callProbe_grows form c).toExtends
  · intro f n
    exact (f.invoke_grows n c).toExtends
  · intro f argument
    exact (f.invoke_grows argument c).toExtends
  · intro capture arguments
    exact (Program.run_grows capture arguments c).toExtends
  · intro capture
    exact (Program.factoryOnly_grows capture c).toExtends

end CaptureProbe
