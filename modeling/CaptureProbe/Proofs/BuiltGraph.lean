import CaptureProbe.Proofs.CallStack

/-!
Graphs that are put together from nothing, function by function and call by call, in any order, with
any numbers and under any names. Whatever was added, no two nodes have one id and both ends of every
edge are nodes. So an edge has positions at both ends, and an id stands for one function.
-/

namespace CaptureProbe.CallGraph

inductive Addition where
  | node (f : FuncRef)
  | edge (site : CallSite) (caller callee : FuncRef)
  deriving DecidableEq

def Addition.call? : Addition → Option CallEdge
  | .node _ => none
  | .edge site caller callee => some ⟨caller.id, callee.id, site⟩

def add (g : CallGraph) : Addition → CallGraph
  | .node f => g.addNode f
  | .edge site caller callee => g.addEdge site caller callee

def build (additions : List Addition) : CallGraph := additions.foldl add empty

theorem edges_add (g : CallGraph) (addition : Addition) :
    (g.add addition).edges = g.edges ++ addition.call?.toList := by
  cases addition with
  | node f => simp [add, Addition.call?]
  | edge site caller callee => simp [add, Addition.call?]

theorem edges_foldl (additions : List Addition) (g : CallGraph) :
    (additions.foldl add g).edges = g.edges ++ additions.filterMap Addition.call? := by
  induction additions generalizing g with
  | nil => simp
  | cons addition rest ih =>
      rw [List.foldl_cons, ih, edges_add, List.append_assoc]
      cases call : addition.call? <;> simp [call]

theorem edges_build (additions : List Addition) :
    (build additions).edges = additions.filterMap Addition.call? :=
  edges_foldl additions empty

/-- Ids name nodes, and edges run between nodes. -/
structure Sound (g : CallGraph) : Prop where
  ids : (g.nodes.map FuncRef.id).Nodup
  ends : ∀ edge ∈ g.edges, g.Knows edge.caller ∧ g.Knows edge.callee

theorem Knows.mono {g h : CallGraph} (nodes : g.nodes <+: h.nodes) {id : Nat} (knows : g.Knows id) :
    h.Knows id := by
  obtain ⟨f, member, same⟩ := (g.knows_iff id).mp knows
  exact (h.knows_iff id).mpr ⟨f, nodes.subset member, same⟩

theorem nodup_addNode {g : CallGraph} (ids : (g.nodes.map FuncRef.id).Nodup) (f : FuncRef) :
    ((g.addNode f).nodes.map FuncRef.id).Nodup := by
  unfold addNode
  by_cases known : g.nodes.any (·.id == f.id) = true
  · rw [if_pos known]
    exact ids
  · rw [if_neg known, List.map_append, List.map_singleton, List.nodup_append]
    refine ⟨ids, List.nodup_singleton _, ?_⟩
    intro id member other last clash
    rw [List.mem_singleton] at last
    obtain ⟨h, old, same⟩ := List.mem_map.mp member
    apply known
    rw [List.any_eq_true]
    exact ⟨h, old, by simp [same, clash, last]⟩

namespace Sound

theorem empty : empty.Sound where
  ids := List.nodup_nil
  ends := by
    intro edge member
    cases member

theorem add {g : CallGraph} (sound : g.Sound) (addition : Addition) : (g.add addition).Sound := by
  cases addition with
  | node f =>
      constructor
      · exact nodup_addNode sound.ids f
      · intro edge member
        have old : edge ∈ g.edges := by simpa [CallGraph.add] using member
        obtain ⟨caller, callee⟩ := sound.ends edge old
        exact ⟨caller.mono (g.nodes_addNode f), callee.mono (g.nodes_addNode f)⟩
  | edge site caller callee =>
      constructor
      · exact nodup_addNode (nodup_addNode sound.ids caller) callee
      · intro edge member
        simp only [CallGraph.add, edges_addEdge, List.mem_append, List.mem_singleton] at member
        simp only [CallGraph.add, knows_addEdge]
        rcases member with old | rfl
        · obtain ⟨source, target⟩ := sound.ends edge old
          exact ⟨Or.inl source, Or.inl target⟩
        · exact ⟨Or.inr (Or.inl rfl), Or.inr (Or.inr rfl)⟩

theorem foldl {g : CallGraph} (sound : g.Sound) (additions : List Addition) :
    (additions.foldl CallGraph.add g).Sound := by
  induction additions generalizing g with
  | nil => exact sound
  | cons addition rest ih => exact ih (sound.add addition)

end Sound

theorem build_sound (additions : List Addition) : (build additions).Sound :=
  Sound.empty.foldl additions

end CaptureProbe.CallGraph
