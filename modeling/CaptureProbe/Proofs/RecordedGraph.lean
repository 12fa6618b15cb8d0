import CaptureProbe.Proofs.Recording

/-!
Reading the call graph of a recorded chronicle back. The function that stands for an id is the first
one mentioned under it, and in a valid chronicle the only one; the calls that a function made are, in
order, those of the chronicle, because the edges already stand in the order of their numbers.
-/

namespace CaptureProbe

namespace CallGraph

theorem node?_addNode (g : CallGraph) (f : FuncRef) (id : Nat) :
    (g.addNode f).node? id = (g.node? id).or ([f].find? (·.id == id)) := by
  unfold addNode node?
  by_cases known : g.nodes.any (·.id == f.id) = true
  · rw [if_pos known]
    by_cases same : f.id = id
    · have found : (g.nodes.find? (·.id == id)).isSome = true := by
        rw [List.find?_isSome, ← List.any_eq_true, ← same]
        exact known
      exact (Option.or_of_isSome found).symm
    · simp [same]
  · rw [if_neg known, List.find?_append]

theorem node?_foldl (functions : List FuncRef) (g : CallGraph) (id : Nat) :
    (functions.foldl addNode g).node? id = (g.node? id).or (functions.find? (·.id == id)) := by
  induction functions generalizing g with
  | nil => exact Option.or_none.symm
  | cons f rest ih =>
      rw [List.foldl_cons, ih, node?_addNode, Option.or_assoc, ← List.find?_append,
        List.singleton_append]

theorem node?_record (g : CallGraph) (first : Nat) (calls : List Call) (id : Nat) :
    (g.record first calls).node? id = (g.node? id).or ((mentions calls).find? (·.id == id)) := by
  rw [← node?_foldl, node?, nodes_record]
  rfl

theorem sorted_callsFrom (g : CallGraph) (caller : Nat) :
    (g.callsFrom caller).Pairwise fun a b => a.site.seq ≤ b.site.seq := by
  have trans : ∀ a b c : CallEdge, decide (a.site.seq ≤ b.site.seq) = true →
      decide (b.site.seq ≤ c.site.seq) = true → decide (a.site.seq ≤ c.site.seq) = true := by
    intro a b c first second
    simp only [decide_eq_true_eq] at first second ⊢
    exact Nat.le_trans first second
  have total : ∀ a b : CallEdge,
      (decide (a.site.seq ≤ b.site.seq) || decide (b.site.seq ≤ a.site.seq)) = true := by
    intro a b
    simp only [Bool.or_eq_true, decide_eq_true_eq]
    exact Nat.le_total _ _
  have sorted := List.pairwise_mergeSort trans total (g.edges.filter (·.caller == caller)).reverse
  exact sorted.imp fun ordered => of_decide_eq_true ordered

theorem callsFrom_of_sorted {g : CallGraph}
    (sorted : g.edges.Pairwise fun a b => a.site.seq < b.site.seq) (caller : Nat) :
    g.callsFrom caller = g.edges.filter (·.caller == caller) := by
  have kept := sorted.filter (·.caller == caller)
  have perm : (g.callsFrom caller).Perm (g.edges.filter (·.caller == caller)) :=
    (List.mergeSort_perm _ _).trans (List.reverse_perm _)
  -- no two edges have one number, so the order of equal numbers does not matter
  apply perm.eq_of_pairwise _ (g.sorted_callsFrom caller) (kept.imp Nat.le_of_lt)
  intro a b first second before after
  have numbers : ((g.edges.filter (·.caller == caller)).map (·.site.seq)).Nodup := by
    rw [List.Nodup, List.pairwise_map]
    exact kept.imp Nat.ne_of_lt
  exact List.inj_on_of_nodup_map numbers (perm.mem_iff.mp first) second (Nat.le_antisymm before after)

theorem sorted_record (g : CallGraph) (empty : g.edges = []) (first : Nat) (calls : List Call) :
    (g.record first calls).edges.Pairwise fun a b => a.site.seq < b.site.seq := by
  rw [edges_record, empty, List.nil_append, List.pairwise_iff_getElem]
  intro i j before after order
  simp only [List.getElem_mapIdx]
  exact Nat.add_lt_add_left order first

theorem callees_record (g : CallGraph) (empty : g.edges = []) (first : Nat) (calls : List Call)
    (id : Nat) :
    (g.record first calls).callees id =
      calls.filterMap fun call =>
        if call.caller.id = id then (g.record first calls).node? call.callee.id else none := by
  rw [callees, callsFrom_of_sorted (sorted_record g empty first calls), List.filterMap_filter,
    edges_record, empty, List.nil_append, filterMap_mapIdx]
  intro i call _
  simp [Call.edge]

end CallGraph

namespace Chronicle

variable {events : List Event}

/-- The calls that there can be: from the top level to a probe, a factory or a closure, and from a
closure to the factory that it was made by. -/
inductive Shape (events : List Event) : FuncRef → FuncRef → CallType → Prop where
  | probe {a : Aggregate} (made : .made a ∈ events) (form : CallForm) :
      Shape events .top a.probe form.callType
  | factory {a : Aggregate} (made : .made a ∈ events) : Shape events .top a.factory.func .direct
  | closure {f : Closure} (back : f ∈ returned events) : Shape events .top f.func .closure
  | again {a : Aggregate} {f : Closure} (made : .made a ∈ events) (back : f ∈ returned events)
      (same : f.factory = a.factory) : Shape events f.func a.factory.func .direct

theorem Valid.shape (valid : Valid events) {call : Call} (member : call ∈ calls events) :
    Shape events call.caller call.callee call.callType := by
  obtain ⟨event, happened, recorded⟩ := List.mem_flatMap.mp member
  cases event with
  | made a => cases recorded
  | probed a form =>
      rw [List.mem_singleton.mp recorded]
      exact .probe (valid.made_of_probed happened) form
  | called a n result =>
      rw [List.mem_singleton.mp recorded]
      exact .factory (valid.made_of_called happened)
  | invoked f argument result =>
      have back := valid.returned_of_invoked happened
      rcases List.mem_cons.mp recorded with rfl | inner
      · exact .closure back
      · obtain ⟨a, n, rooted⟩ := valid.rooted back
        have same := (rooted.kept valid).2
        rw [List.mem_singleton.mp inner, same]
        exact .again (rooted.made valid) back same

theorem Valid.mentioned (valid : Valid events) {f : FuncRef}
    (member : f ∈ CallGraph.mentions (calls events)) : f = .top ∨ f ∈ given events := by
  obtain ⟨call, recorded, either⟩ := List.mem_flatMap.mp member
  have shape := valid.shape recorded
  obtain ⟨caller, callee, callType⟩ := call
  have ends : f = caller ∨ f = callee := by simpa using either
  cases shape with
  | probe made form =>
      rcases ends with rfl | rfl
      · exact Or.inl rfl
      · exact Or.inr (probe_given made)
  | factory made =>
      rcases ends with rfl | rfl
      · exact Or.inl rfl
      · exact Or.inr (factory_given made)
  | closure back =>
      rcases ends with rfl | rfl
      · exact Or.inl rfl
      · exact Or.inr (given_of_returned back)
  | again made back same =>
      rcases ends with rfl | rfl
      · exact Or.inr (given_of_returned back)
      · exact Or.inr (factory_given made)

theorem mentions_of_call {call : Call} (member : call ∈ calls events) :
    call.caller ∈ CallGraph.mentions (calls events) ∧
      call.callee ∈ CallGraph.mentions (calls events) := by
  constructor
  · exact List.mem_flatMap.mpr ⟨call, member, List.mem_cons_self⟩
  · exact List.mem_flatMap.mpr ⟨call, member, List.mem_cons_of_mem _ List.mem_cons_self⟩

theorem Valid.function_unique (valid : Valid events) {f g : FuncRef}
    (first : f = .top ∨ f ∈ given events) (second : g = .top ∨ g ∈ given events)
    (same : f.id = g.id) : f = g := by
  rcases first with rfl | first
  · rcases second with rfl | second
    · rfl
    · exact absurd same.symm (valid.given_ne_top second)
  · rcases second with rfl | second
    · exact absurd same (valid.given_ne_top first)
    · exact valid.given_unique first second same

end Chronicle

namespace Records

variable {events : List Event} {c : Context}

theorem edges (records : Records events c) :
    c.graph.edges = (Chronicle.calls events).mapIdx fun i call => call.edge i := by
  rw [records.graph, CallGraph.edges_record]
  simp [CallGraph.empty]

theorem view_edges {γ : Type} (records : Records events c) (view : CallEdge → Option γ)
    (plain : Call → Option γ)
    (same : ∀ i, ∀ call ∈ Chronicle.calls events, view (call.edge i) = plain call) :
    c.graph.edges.filterMap view = (Chronicle.calls events).filterMap plain := by
  rw [records.edges]
  exact filterMap_mapIdx _ view plain _ same

theorem view_observations {γ : Type} (records : Records events c) (view : Observation → Option γ)
    (plain : Sighting → Option γ)
    (same : ∀ i sighting, view (Sighting.observation i sighting) = plain sighting) :
    c.trace.observations.filterMap view = (Chronicle.sightings events).filterMap plain := by
  rw [records.trace]
  exact Trace.empty.view_observe view plain same _

theorem node? (records : Records events c) {f : FuncRef}
    (mentioned : f ∈ CallGraph.mentions (Chronicle.calls events)) :
    c.graph.node? f.id = some f := by
  have nodes : c.graph.node? f.id =
      ([FuncRef.top] ++ CallGraph.mentions (Chronicle.calls events)).find? (·.id == f.id) := by
    rw [records.graph, CallGraph.node?_record, CallGraph.node?_addNode, List.find?_append]
    rfl
  -- the first mention of the id is the only one
  rw [nodes]
  cases found : ([FuncRef.top] ++ CallGraph.mentions (Chronicle.calls events)).find?
      (·.id == f.id) with
  | none =>
      have different := List.find?_eq_none.mp found f (List.mem_append_right _ mentioned)
      simp at different
  | some g =>
      have known : g = .top ∨ g ∈ Chronicle.given events := by
        rcases List.mem_append.mp (List.mem_of_find?_eq_some found) with top | member
        · exact Or.inl (List.mem_singleton.mp top)
        · exact records.valid.mentioned member
      have same : g.id = f.id := by simpa using List.find?_some found
      rw [records.valid.function_unique known (records.valid.mentioned mentioned) same]

end Records
end CaptureProbe
