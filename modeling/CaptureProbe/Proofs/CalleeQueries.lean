import Mathlib.Algebra.GroupWithZero.Nat
import CaptureProbe.Proofs.BuiltGraph

/-!
What the queries for callees answer on a built graph. Numbers of calls may repeat and come in any
order, so the order of the answer rests on two things: the sort is stable, and it is given the newest
call first.
-/

namespace CaptureProbe.CallGraph

/-- The calls of one function with their positions among all calls, lower numbers first, and of equal
numbers the newest first. -/
structure InCallOrder (calls : List CallEdge) (caller : Nat) (made : List (CallEdge × Nat)) : Prop where
  complete : ∀ entry, entry ∈ made ↔ calls[entry.2]? = some entry.1 ∧ entry.1.caller = caller
  order : made.Pairwise fun a b =>
    a.1.site.seq < b.1.site.seq ∨ (a.1.site.seq = b.1.site.seq ∧ b.2 < a.2)

def numberLe (a b : CallEdge × Nat) : Bool := a.1.site.seq ≤ b.1.site.seq

theorem numberLe_trans (a b c : CallEdge × Nat) (first : numberLe a b = true)
    (second : numberLe b c = true) : numberLe a c = true := by
  simp only [numberLe, decide_eq_true_eq] at *
  omega

theorem numberLe_total (a b : CallEdge × Nat) : (numberLe a b || numberLe b a) = true := by
  simp only [numberLe, Bool.or_eq_true, decide_eq_true_eq]
  omega

-- Entries of one number make a sorted sublist, and a stable sort leaves those alone.
theorem filter_mergeSort (entries : List (CallEdge × Nat)) (number : Nat) :
    (entries.mergeSort numberLe).filter (·.1.site.seq == number) =
      entries.filter (·.1.site.seq == number) := by
  have equal : (entries.filter (·.1.site.seq == number)).Pairwise
      fun a b => numberLe a b = true := by
    rw [List.pairwise_filter]
    refine List.pairwise_of_forall ?_
    intro a b first second
    simp only [beq_iff_eq] at first second
    simp [numberLe, first, second]
  have kept := List.sublist_mergeSort numberLe_trans numberLe_total equal List.filter_sublist
  have filtered := kept.filter (·.1.site.seq == number)
  simp only [List.filter_filter, Bool.and_self] at filtered
  refine (filtered.eq_of_length ?_).symm
  exact ((List.mergeSort_perm entries numberLe).filter _).length_eq.symm

theorem ordered_mergeSort {entries : List (CallEdge × Nat)}
    (newest : entries.Pairwise fun a b => b.2 < a.2) :
    (entries.mergeSort numberLe).Pairwise fun a b =>
      a.1.site.seq < b.1.site.seq ∨ (a.1.site.seq = b.1.site.seq ∧ b.2 < a.2) := by
  rw [List.pairwise_iff_forall_sublist]
  intro a b pair
  have sorted := List.pairwise_mergeSort numberLe_trans numberLe_total entries
  have numbers := List.pairwise_iff_forall_sublist.mp sorted pair
  simp only [numberLe, decide_eq_true_eq] at numbers
  rcases Nat.lt_or_eq_of_le numbers with less | same
  · exact Or.inl less
  · have among := pair.filter (·.1.site.seq == a.1.site.seq)
    rw [filter_mergeSort] at among
    simp only [List.filter_cons, beq_self_eq_true, same, if_true, List.filter_nil] at among
    exact Or.inr ⟨same, List.pairwise_iff_forall_sublist.mp newest (among.trans List.filter_sublist)⟩

def entriesFrom (g : CallGraph) (caller : Nat) : List (CallEdge × Nat) :=
  (g.edges.zipIdx.filter (·.1.caller == caller)).reverse

theorem callsFrom_eq (g : CallGraph) (caller : Nat) :
    g.callsFrom caller = ((g.entriesFrom caller).mergeSort numberLe).map Prod.fst := by
  have edges : (g.entriesFrom caller).map Prod.fst =
      (g.edges.filter (·.caller == caller)).reverse := by
    rw [entriesFrom, List.map_reverse, ← List.zipIdx_map_fst 0 g.edges, List.filter_map]
    simp [Function.comp_def]
  rw [callsFrom, ← edges]
  symm
  apply List.map_mergeSort
  intro a _ b _
  rfl

theorem newest_entriesFrom (g : CallGraph) (caller : Nat) :
    (g.entriesFrom caller).Pairwise fun a b => b.2 < a.2 := by
  have positions : g.edges.zipIdx.Pairwise fun a b => a.2 < b.2 := by
    apply List.pairwise_map.mp
    rw [List.zipIdx_map_snd]
    exact List.pairwise_lt_range'
  rw [entriesFrom, List.pairwise_reverse]
  exact positions.filter _

theorem callsFrom_inCallOrder (g : CallGraph) (caller : Nat) :
    InCallOrder g.edges caller ((g.entriesFrom caller).mergeSort numberLe) where
  complete := by
    intro entry
    simp [entriesFrom, List.mem_zipIdx_iff_getElem?]
  order := ordered_mergeSort (g.newest_entriesFrom caller)

theorem mem_callsFrom {g : CallGraph} {caller : Nat} {edge : CallEdge} :
    edge ∈ g.callsFrom caller ↔ edge ∈ g.edges ∧ edge.caller = caller := by
  simp [callsFrom]

theorem length_callsFrom (g : CallGraph) (caller : Nat) :
    (g.callsFrom caller).length = g.edges.countP (·.caller == caller) := by
  simp [callsFrom, List.countP_eq_length_filter]

namespace Sound

variable {g : CallGraph}

-- Every callee has a node, so no call is dropped from the answer.
theorem callees_map_some (sound : g.Sound) (caller : Nat) :
    (g.callees caller).map some = (g.callsFrom caller).map fun edge => g.node? edge.callee := by
  have known : ∀ edge ∈ g.callsFrom caller, (g.node? edge.callee).isSome = true := by
    intro edge member
    exact (sound.ends edge (mem_callsFrom.mp member).1).2
  rw [callees]
  generalize g.callsFrom caller = calls at known ⊢
  induction calls with
  | nil => rfl
  | cons edge rest ih =>
      have tail := ih fun later member => known later (List.mem_cons_of_mem _ member)
      obtain ⟨f, found⟩ := Option.isSome_iff_exists.mp (known edge List.mem_cons_self)
      simp only [List.filterMap_cons, List.map_cons, found, tail]

theorem length_callees (sound : g.Sound) (caller : Nat) :
    (g.callees caller).length = g.edges.countP (·.caller == caller) := by
  have lengths := congrArg List.length (sound.callees_map_some caller)
  rw [List.length_map, List.length_map, length_callsFrom] at lengths
  exact lengths

theorem hasEdge_iff (sound : g.Sound) (caller callee : Nat) :
    g.hasEdge caller callee = true ↔ ∃ f ∈ g.callees caller, f.id = callee := by
  have named : ∀ {f : FuncRef} {id : Nat}, g.node? id = some f → f.id = id := by
    intro f id found
    simpa using List.find?_some found
  simp only [hasEdge, List.any_eq_true, Bool.and_eq_true, beq_iff_eq]
  constructor
  · rintro ⟨edge, member, rfl, rfl⟩
    obtain ⟨f, found⟩ := Option.isSome_iff_exists.mp (sound.ends edge member).2
    refine ⟨f, ?_, named found⟩
    exact List.mem_filterMap.mpr ⟨edge, mem_callsFrom.mpr ⟨member, rfl⟩, found⟩
  · rintro ⟨f, member, rfl⟩
    obtain ⟨edge, called, found⟩ := List.mem_filterMap.mp member
    obtain ⟨old, same⟩ := mem_callsFrom.mp called
    exact ⟨edge, old, same, (named found).symm⟩

end Sound

-- Each call is counted at its caller and nowhere else.
theorem sum_countP {ids : List Nat} (nodup : ids.Nodup) (calls : List CallEdge)
    (among : ∀ call ∈ calls, call.caller ∈ ids) :
    (ids.map fun id => calls.countP (·.caller == id)).sum = calls.length := by
  induction ids generalizing calls with
  | nil =>
      cases calls with
      | nil => rfl
      | cons call rest => exact absurd (among call List.mem_cons_self) List.not_mem_nil
  | cons id rest ih =>
      obtain ⟨fresh, distinct⟩ := List.nodup_cons.mp nodup
      let others := calls.filter (!·.caller == id)
      have callers : ∀ call ∈ others, call.caller ∈ rest := by
        intro call member
        obtain ⟨old, different⟩ := List.mem_filter.mp member
        rcases List.mem_cons.mp (among call old) with same | later
        · simp [same] at different
        · exact later
      have counts : rest.map (fun later => calls.countP (·.caller == later)) =
          rest.map fun later => others.countP (·.caller == later) := by
        apply List.map_congr_left
        intro later member
        rw [List.countP_filter]
        apply List.countP_congr
        intro call _
        have apart : later ≠ id := by
          rintro rfl
          exact fresh member
        simp only [beq_iff_eq, Bool.and_eq_true, Bool.not_eq_true', beq_eq_false_iff_ne]
        constructor
        · rintro rfl
          exact ⟨rfl, apart⟩
        · exact And.left
      rw [List.map_cons, List.sum_cons, counts, ih distinct others callers,
        ← List.countP_eq_length_filter]
      have total := List.length_eq_countP_add_countP (l := calls) (·.caller == id)
      simp only [Bool.not_eq_true, Bool.decide_eq_false] at total
      exact total.symm

/-- On every built graph. The callees of a function are the functions at the far ends of exactly its
calls, by number, and the newest first among equal numbers; with numbers that only grow they come as
they were added. All functions together have as many callees as there are edges, and there is an edge
between two functions if and only if one is among the callees of the other. -/
theorem callees_are_its_calls (additions : List Addition) :
    let g := build additions
    let calls := additions.filterMap Addition.call?
    (∀ caller, ∃ made, InCallOrder calls caller made ∧
      (g.callees caller).map some = made.map fun entry => g.node? entry.1.callee) ∧
      (g.edgeCount = calls.length ∧
        (g.nodes.map fun f => (g.callees f.id).length).sum = g.edgeCount) ∧
      ((calls.Pairwise fun a b => a.site.seq < b.site.seq) → ∀ caller,
        (g.callees caller).map some =
          (calls.filter (·.caller == caller)).map fun edge => g.node? edge.callee) ∧
      ∀ a b, g.hasEdge a b = true ↔ ∃ f ∈ g.callees a, f.id = b := by
  intro g calls
  have sound : g.Sound := build_sound additions
  have edges : g.edges = calls := edges_build additions
  refine ⟨?_, ⟨?_, ?_⟩, ?_, sound.hasEdge_iff⟩
  · intro caller
    refine ⟨(g.entriesFrom caller).mergeSort numberLe, ?_, ?_⟩
    · rw [← edges]
      exact g.callsFrom_inCallOrder caller
    · rw [sound.callees_map_some, callsFrom_eq, List.map_map]
      rfl
  · rw [edgeCount, edges]
  · have callers : ∀ call ∈ g.edges, call.caller ∈ g.nodes.map FuncRef.id := by
      intro call member
      exact List.mem_map.mpr ((g.knows_iff _).mp (sound.ends call member).1)
    have sum := sum_countP sound.ids g.edges callers
    simp only [sound.length_callees]
    rw [List.map_map] at sum
    exact sum
  · intro grows caller
    rw [← edges] at grows ⊢
    rw [sound.callees_map_some, callsFrom_of_sorted grows]

/-- A function that calls itself between two calls of another, which is mentioned under a second name
by then. -/
theorem callees_of_recursive_function :
    let additions : List Addition := [.edge ⟨3, .direct⟩ ⟨4, "f"⟩ ⟨7, "g"⟩,
      .edge ⟨4, .closure⟩ ⟨7, "h"⟩ ⟨4, "f"⟩, .edge ⟨6, .closure⟩ ⟨4, "f"⟩ ⟨4, "g"⟩, .node ⟨0, "f"⟩,
      .edge ⟨9, .direct⟩ ⟨4, "f"⟩ ⟨7, "h"⟩]
    let g := build additions
    ((additions.filterMap Addition.call?).Pairwise fun a b => a.site.seq < b.site.seq) ∧
      (g.callees 4).map some = [some ⟨7, "g"⟩, some ⟨4, "f"⟩, some ⟨7, "g"⟩] ∧
      (g.hasEdge 4 4 = true ↔ ∃ f ∈ g.callees 4, f.id = 4) := by
  intro additions g
  have grows : (additions.filterMap Addition.call?).Pairwise fun a b => a.site.seq < b.site.seq := by
    decide
  obtain ⟨-, -, inOrder, edge⟩ := callees_are_its_calls additions
  exact ⟨grows, (inOrder grows 4).trans (by decide), edge 4 4⟩

end CaptureProbe.CallGraph
