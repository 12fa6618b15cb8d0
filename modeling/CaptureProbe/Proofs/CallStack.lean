import Mathlib.Data.List.Chain
import Mathlib.Logic.Relation
import CaptureProbe.Proofs.ContextOperations
import CaptureProbe.Proofs.RecordedGraph

/-!
The call stack and the call graph fit together in every session, however its calls are entered and
left. The stack holds functions, the graph knows them by id only, and a function may be entered under
an id that another one has. What ties the two is that each frame was called by the one below it.
-/

namespace CaptureProbe

namespace CallGraph

def Reaches (g : CallGraph) : Nat → Nat → Prop :=
  Relation.ReflTransGen fun caller callee => g.hasEdge caller callee = true

def Knows (g : CallGraph) (id : Nat) : Prop := (g.node? id).isSome = true

theorem knows_iff (g : CallGraph) (id : Nat) : g.Knows id ↔ ∃ f ∈ g.nodes, f.id = id := by
  simp [Knows, node?, List.find?_isSome]

theorem edgeCount_addEdge (g : CallGraph) (site : CallSite) (caller callee : FuncRef) :
    (g.addEdge site caller callee).edgeCount = g.edgeCount + 1 := by
  simp [edgeCount]

theorem hasEdge_addEdge (g : CallGraph) (site : CallSite) (caller callee : FuncRef) (a b : Nat) :
    (g.addEdge site caller callee).hasEdge a b = true ↔
      g.hasEdge a b = true ∨ (caller.id = a ∧ callee.id = b) := by
  simp [hasEdge]

theorem Reaches.addEdge {g : CallGraph} {a b : Nat} (reaches : g.Reaches a b) (site : CallSite)
    (caller callee : FuncRef) : (g.addEdge site caller callee).Reaches a b := by
  refine Relation.ReflTransGen.mono ?_ a b reaches
  intro source target edge
  exact (g.hasEdge_addEdge site caller callee source target).mpr (Or.inl edge)

theorem mem_nodes_addNode {g : CallGraph} {f h : FuncRef} (member : h ∈ (g.addNode f).nodes) :
    h ∈ g.nodes ∨ h = f := by
  unfold addNode at member
  split at member
  · exact Or.inl member
  · simpa using member

theorem mem_nodes_addEdge {g : CallGraph} {site : CallSite} {caller callee h : FuncRef}
    (member : h ∈ (g.addEdge site caller callee).nodes) :
    h ∈ g.nodes ∨ h = caller ∨ h = callee := by
  rcases mem_nodes_addNode member with first | last
  · rcases mem_nodes_addNode first with old | new
    · exact Or.inl old
    · exact Or.inr (Or.inl new)
  · exact Or.inr (Or.inr last)

theorem knows_addEdge (g : CallGraph) (site : CallSite) (caller callee : FuncRef) (id : Nat) :
    (g.addEdge site caller callee).Knows id ↔ g.Knows id ∨ caller.id = id ∨ callee.id = id := by
  have found : (g.addEdge site caller callee).node? id =
      ((g.node? id).or ([caller].find? (·.id == id))).or ([callee].find? (·.id == id)) := by
    rw [← node?_addNode, ← node?_addNode]
    rfl
  simp [Knows, found, or_assoc]

end CallGraph

namespace Context

/-- The stack and the graph fit together. The chain goes down the stack, so an edge of the graph goes
against it. -/
structure Linked (c : Context) : Prop where
  first : c.graph.nodes.head? = some .top
  numbered : c.graph.edges.map (·.site.seq) = List.range c.graph.edgeCount
  counted : c.nextSite = c.graph.edgeCount
  known : ∀ f ∈ c.stack, c.graph.Knows f.id
  called : c.stack.IsChain fun upper lower => c.graph.hasEdge lower.id upper.id = true
  reached : ∀ f ∈ c.graph.nodes, c.graph.Reaches FuncRef.top.id f.id

@[simp] theorem stack_enter (c : Context) (callee : FuncRef) (callType : CallType) :
    (c.enter callee callType).stack = callee :: c.stack := rfl

theorem stack_leave (c : Context) :
    c.leave.stack = if c.stack.length = 1 then c.stack else c.stack.tail := by
  unfold leave stack
  split
  · rename_i top
    simp [top, note]
  · rename_i above
    simp [above]

theorem stack_eq_current_cons (c : Context) : ∃ rest, c.stack = c.current :: rest := by
  unfold stack current
  cases c.calls with
  | nil => exact ⟨[], rfl⟩
  | cons f rest => exact ⟨rest ++ [.top], rfl⟩

theorem leave_graph (c : Context) : c.leave.graph = c.graph ∧ c.leave.nextSite = c.nextSite := by
  unfold leave
  split <;> exact ⟨rfl, rfl⟩

theorem fresh_linked (mode : Mode) (sink : Sink) : (fresh mode sink).Linked where
  first := rfl
  numbered := rfl
  counted := rfl
  known := by
    intro f member
    rw [List.mem_singleton.mp member]
    rfl
  called := List.isChain_singleton _
  reached := by
    intro f member
    rw [List.mem_singleton.mp member]
    exact .refl

namespace Linked

variable {c d : Context}

-- Frames may go while the graph stays: every other operation than a call does no more than that.
theorem fewer (linked : c.Linked) (frames : d.stack <:+ c.stack) (graph : d.graph = c.graph)
    (site : d.nextSite = c.nextSite) : d.Linked := by
  constructor
  · rw [graph]
    exact linked.first
  · rw [graph]
    exact linked.numbered
  · rw [graph, site]
    exact linked.counted
  · intro f member
    rw [graph]
    exact linked.known f (frames.subset member)
  · rw [graph]
    exact linked.called.suffix frames
  · rw [graph]
    exact linked.reached

theorem unchanged (linked : c.Linked) (stack : d.stack = c.stack) (graph : d.graph = c.graph)
    (site : d.nextSite = c.nextSite) : d.Linked := by
  exact linked.fewer (stack ▸ List.suffix_refl _) graph site

theorem leave (linked : c.Linked) : c.leave.Linked := by
  obtain ⟨graph, site⟩ := c.leave_graph
  refine linked.fewer ?_ graph site
  rw [stack_leave]
  split
  · exact List.suffix_refl _
  · exact List.tail_suffix _

theorem enter (linked : c.Linked) (callee : FuncRef) (callType : CallType) :
    (c.enter callee callType).Linked := by
  obtain ⟨below, stack⟩ := c.stack_eq_current_cons
  have current : c.current ∈ c.stack := by
    rw [stack]
    exact List.mem_cons_self
  obtain ⟨node, member, same⟩ := (c.graph.knows_iff _).mp (linked.known _ current)
  let site : CallSite := ⟨c.nextSite, callType⟩
  have graph : (c.enter callee callType).graph = c.graph.addEdge site c.current callee := rfl
  -- the caller is reachable already, so what it calls is reachable by one edge more
  have reaches : (c.graph.addEdge site c.current callee).Reaches FuncRef.top.id c.current.id := by
    have before := linked.reached node member
    rw [same] at before
    exact before.addEdge site c.current callee
  have edge : (c.graph.addEdge site c.current callee).hasEdge c.current.id callee.id = true :=
    (c.graph.hasEdge_addEdge site c.current callee _ _).mpr (Or.inr ⟨rfl, rfl⟩)
  constructor
  · obtain ⟨more, nodes⟩ := c.graph.nodes_addEdge site c.current callee
    rw [graph, ← nodes, List.head?_append, linked.first]
    rfl
  · rw [graph, CallGraph.edgeCount_addEdge, CallGraph.edges_addEdge, List.map_append,
      linked.numbered, List.range_succ, ← linked.counted]
    rfl
  · rw [graph, CallGraph.edgeCount_addEdge, ← linked.counted]
    rfl
  · intro f frame
    rw [stack_enter] at frame
    rw [graph, CallGraph.knows_addEdge]
    rcases List.mem_cons.mp frame with rfl | old
    · exact Or.inr (Or.inr rfl)
    · exact Or.inl (linked.known f old)
  · rw [graph, stack_enter, stack, List.isChain_cons_cons, ← stack]
    refine ⟨edge, linked.called.imp ?_⟩
    intro upper lower before
    exact (c.graph.hasEdge_addEdge site c.current callee _ _).mpr (Or.inl before)
  · intro f found
    rcases CallGraph.mem_nodes_addEdge found with old | rfl | rfl
    · exact (linked.reached f old).addEdge site c.current callee
    · exact reaches
    · exact reaches.tail edge

theorem kept : Kept Linked where
  note linked _ _ _ := linked.unchanged rfl rfl rfl
  newObject linked _ := linked.unchanged rfl rfl rfl
  newFunction linked _ := linked.unchanged rfl rfl rfl
  enter linked callee callType := linked.enter callee callType
  leave linked := linked.leave
  emit linked value := by
    rw [emit_eq]
    exact linked.unchanged rfl rfl rfl
  observeReceiver linked _ _ := linked.unchanged rfl rfl rfl

end Linked
end Context

/-- After any operations the stack stands on the top level, the calls are numbered in order, every
frame is known to the graph and was called by the frame below it, and every function of the graph can
be reached from the top level by calls. -/
theorem Session.stack_and_graph_linked (mode : Mode) (sink : Sink) (operations : List Operation) :
    let c := ((fresh mode sink).runAll operations).context
    c.stack ≠ [] ∧ c.stack.getLast? = some .top ∧
      c.graph.edges.map (·.site.seq) = List.range c.graph.edgeCount ∧
      c.nextSite = c.graph.edgeCount ∧
      (∀ f ∈ c.stack, (c.graph.node? f.id).isSome = true) ∧
      (c.stack.IsChain fun upper lower => c.graph.hasEdge lower.id upper.id = true) ∧
      c.graph.node? FuncRef.top.id = some .top ∧
      ∀ f ∈ c.graph.nodes, Relation.ReflTransGen
        (fun caller callee => c.graph.hasEdge caller callee = true) FuncRef.top.id f.id := by
  intro c
  have linked : c.Linked :=
    runAll_kept Context.Linked.kept (Context.fresh_linked mode sink) operations
  refine ⟨?_, ?_, linked.numbered, linked.counted, linked.known, linked.called, ?_, linked.reached⟩
  · simp [Context.stack]
  · simp [Context.stack]
  · obtain ⟨rest, nodes⟩ := List.head?_eq_some_iff.mp linked.first
    rw [CallGraph.node?, nodes]
    rfl

end CaptureProbe
