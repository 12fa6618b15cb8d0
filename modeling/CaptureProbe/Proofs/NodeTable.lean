import Mathlib.Algebra.GroupWithZero.Nat
import CaptureProbe.CallGraph.Indexed
import CaptureProbe.Proofs.CalleeQueries
import CaptureProbe.Proofs.DotText
import CaptureProbe.Proofs.History

/-!
The node table of a graph that is put together in any order. The graph by positions keeps three things
apart that have to be in step: the nodes, the table that leads to them, and the links between them. It
keeps the graph by ids, where a position is looked for among the nodes and so is never out of step, and
the queries that go through the table answer what they do there.
-/

namespace CaptureProbe

namespace CallGraph

def Addition.mentions : Addition → List FuncRef
  | .node f => [f]
  | .edge _ caller callee => [caller, callee]

def firstMentions (mentioned : List FuncRef) : List FuncRef :=
  (mentioned.zipIdx.filter fun entry =>
    (mentioned.take entry.2).all (·.id != entry.1.id)).map Prod.fst

theorem firstMentions_append (mentioned : List FuncRef) (f : FuncRef) :
    firstMentions (mentioned ++ [f]) =
      firstMentions mentioned ++ if mentioned.any (·.id == f.id) then [] else [f] := by
  -- what stands before an old mention is not changed by a new one at the end
  have old : mentioned.zipIdx.filter (fun entry =>
        ((mentioned ++ [f]).take entry.2).all (·.id != entry.1.id)) =
      mentioned.zipIdx.filter fun entry => (mentioned.take entry.2).all (·.id != entry.1.id) := by
    apply List.filter_congr
    intro entry member
    have inside : entry.2 < mentioned.length := by
      simpa using List.snd_lt_of_mem_zipIdx member
    rw [List.take_append_of_le_length (Nat.le_of_lt inside)]
  have new : (mentioned.all (·.id != f.id)) = !mentioned.any (·.id == f.id) := by
    rw [List.not_any_eq_all_not]
    rfl
  rw [firstMentions, List.zipIdx_append, List.filter_append, List.map_append, old, ← firstMentions]
  congr 1
  cases known : mentioned.any (·.id == f.id) <;> simp [new, known]

theorem any_firstMentions (mentioned : List FuncRef) (id : Nat) :
    (firstMentions mentioned).any (·.id == id) = mentioned.any (·.id == id) := by
  induction mentioned using List.reverseRecOn with
  | nil => rfl
  | append_singleton rest f ih =>
      rw [firstMentions_append, List.any_append, List.any_append, ih]
      by_cases known : rest.any (·.id == f.id) = true
      · rw [if_pos known]
        by_cases same : f.id = id
        · rw [same] at known
          simp [known]
        · simp [same]
      · rw [if_neg known]

theorem nodes_addNode_firstMentions {g : CallGraph} {mentioned : List FuncRef}
    (first : g.nodes = firstMentions mentioned) (f : FuncRef) :
    (g.addNode f).nodes = firstMentions (mentioned ++ [f]) := by
  rw [firstMentions_append, ← any_firstMentions, ← first, addNode]
  split
  · rw [List.append_nil]
  · rfl

theorem nodes_add_firstMentions {g : CallGraph} {mentioned : List FuncRef}
    (first : g.nodes = firstMentions mentioned) (addition : Addition) :
    (g.add addition).nodes = firstMentions (mentioned ++ addition.mentions) := by
  cases addition with
  | node f => exact nodes_addNode_firstMentions first f
  | edge site caller callee =>
      have both := nodes_addNode_firstMentions (nodes_addNode_firstMentions first caller) callee
      rw [List.append_assoc] at both
      exact both

theorem nodes_foldl_firstMentions (additions : List Addition) {g : CallGraph}
    {mentioned : List FuncRef} (first : g.nodes = firstMentions mentioned) :
    (additions.foldl add g).nodes =
      firstMentions (mentioned ++ additions.flatMap Addition.mentions) := by
  induction additions generalizing g mentioned with
  | nil => simpa using first
  | cons addition rest ih =>
      rw [List.foldl_cons, ih (nodes_add_firstMentions first addition), List.append_assoc]
      rfl

theorem nodes_build (additions : List Addition) :
    (build additions).nodes = firstMentions (additions.flatMap Addition.mentions) := by
  have first : empty.nodes = firstMentions [] := rfl
  exact nodes_foldl_firstMentions additions first

-- an id that comes back under another name
example : firstMentions [⟨4, "a"⟩, ⟨0, "b"⟩, ⟨4, "c"⟩] = [⟨4, "a"⟩, ⟨0, "b"⟩] := by decide

theorem nodes_extend_add (g : CallGraph) (addition : Addition) : g.nodes <+: (g.add addition).nodes := by
  cases addition with
  | node f => exact g.nodes_addNode f
  | edge site caller callee => exact g.nodes_addEdge site caller callee

theorem nodes_extend_foldl (g : CallGraph) (additions : List Addition) :
    g.nodes <+: (additions.foldl add g).nodes := by
  induction additions generalizing g with
  | nil => exact List.prefix_refl _
  | cons addition rest ih => exact (g.nodes_extend_add addition).trans (ih _)

theorem sum_edgeCountOf (g : CallGraph) : (CallType.all.map g.edgeCountOf).sum = g.edgeCount := by
  simp only [CallType.all, edgeCountOf, edgeCount, List.map_cons, List.map_nil, List.sum_cons,
    List.sum_nil]
  induction g.edges with
  | nil => rfl
  | cons edge rest ih =>
      cases type : edge.site.callType <;> simp [type] <;> omega

theorem addNode_of_found {c : CallGraph} {f : FuncRef} {position : Nat}
    (found : c.index? f.id = some position) : c.addNode f = c := by
  apply if_pos
  rw [← List.findIdx?_isSome]
  exact Option.isSome_of_mem found

theorem addNode_of_not_found {c : CallGraph} {f : FuncRef} (missing : c.index? f.id = none) :
    c.addNode f = { c with nodes := c.nodes ++ [f] } := by
  apply if_neg
  rw [← List.findIdx?_isSome]
  exact Option.not_isSome_iff_eq_none.mpr missing

theorem index?_addNode_of_not_found {c : CallGraph} {f : FuncRef} (missing : c.index? f.id = none) :
    (c.addNode f).index? f.id = some c.nodes.length := by
  rw [addNode_of_not_found missing]
  unfold index? at *
  rw [List.findIdx?_append, missing]
  simp

theorem node?_of_index? {c : CallGraph} {id position : Nat} (found : c.index? id = some position) :
    c.nodes[position]? = c.node? id := by
  obtain ⟨inside, same, first⟩ := List.findIdx?_eq_some_iff_getElem.mp found
  rw [List.getElem?_eq_getElem inside, eq_comm, node?, List.find?_eq_some_iff_getElem]
  exact ⟨same, position, inside, rfl, fun earlier before => by simpa using first earlier before⟩

def linkOf (c : CallGraph) (edge : CallEdge) : Link :=
  ⟨(c.index? edge.caller).getD 0, (c.index? edge.callee).getD 0, edge.site⟩

namespace Sound

variable {c d : CallGraph}

theorem index?_iff (sound : c.Sound) (id position : Nat) :
    c.index? id = some position ↔ (c.nodes[position]?).map FuncRef.id = some id := by
  rw [index?, List.findIdx?_eq_some_iff_getElem, Option.map_eq_some_iff]
  constructor
  · rintro ⟨inside, same, -⟩
    exact ⟨c.nodes[position], List.getElem?_eq_getElem inside, by simpa using same⟩
  · rintro ⟨f, found, rfl⟩
    obtain ⟨inside, rfl⟩ := List.getElem?_eq_some_iff.mp found
    refine ⟨inside, by simp, ?_⟩
    -- an earlier node of the same id would be this one
    intro earlier before same
    have ids : (c.nodes.map FuncRef.id)[earlier]? = (c.nodes.map FuncRef.id)[position]? := by
      simpa [Nat.lt_trans before inside, inside] using same
    have place := (List.getElem?_inj (by simpa using Nat.lt_trans before inside) sound.ids).mp ids
    omega

theorem index?_eq_iff (sound : c.Sound) {first second source target : Nat}
    (from_ : c.index? first = some source) (to_ : c.index? second = some target) :
    source = target ↔ first = second := by
  constructor
  · rintro rfl
    rw [sound.index?_iff] at from_ to_
    exact Option.some.inj (from_.symm.trans to_)
  · rintro rfl
    exact Option.some.inj (from_.symm.trans to_)

-- Positions that an edge has are kept when nodes come behind them.
theorem placed_of_extends (sound : c.Sound) (nodes : c.nodes <+: d.nodes) {edge : CallEdge}
    (member : edge ∈ c.edges) : d.placed edge = c.placed edge := by
  obtain ⟨source, target, from_, to_⟩ := sound.ends_positions member
  rw [placed, placed, from_, to_, index?_of_extends nodes from_, index?_of_extends nodes to_]

theorem linkOf_ends (sound : c.Sound) {edge : CallEdge} (member : edge ∈ c.edges) :
    c.index? edge.caller = some (c.linkOf edge).source ∧
      c.index? edge.callee = some (c.linkOf edge).target := by
  obtain ⟨source, target, from_, to_⟩ := sound.ends_positions member
  rw [linkOf, from_, to_]
  exact ⟨rfl, rfl⟩

end Sound
end CallGraph

-- in the form in which edges by ids are placed
def Link.placed (link : Link) : Option Nat × Option Nat × CallSite :=
  (some link.source, some link.target, link.site)

theorem Link.placed_injective : Function.Injective Link.placed := by
  rintro ⟨source, target, site⟩ ⟨from_, to_, other⟩ same
  simpa [placed] using same

namespace IndexedGraph

open CallGraph (Addition firstMentions)

def positions (nodes : List FuncRef) : List (Nat × Nat) :=
  nodes.zipIdx.map fun entry => (entry.1.id, entry.2)

theorem lookup_zipIdx (nodes : List FuncRef) (start id : Nat) :
    ((nodes.zipIdx start).map fun entry => (entry.1.id, entry.2)).lookup id =
      (nodes.findIdx? (·.id == id)).map (· + start) := by
  induction nodes generalizing start with
  | nil => rfl
  | cons f rest ih =>
      by_cases same : f.id = id
      · simp [List.findIdx?_cons, same]
      · have other : (id == f.id) = false := by simpa using Ne.symm same
        simp only [List.zipIdx_cons, List.map_cons, List.lookup_cons, other, ih, List.findIdx?_cons,
          beq_eq_false_iff_ne.mpr same]
        cases rest.findIdx? (·.id == id) with
        | none => rfl
        | some position => simp [Nat.add_assoc, Nat.add_comm 1]

-- `edge?` for an edge that is placed.
def edgeAt? (nodes : List FuncRef) (ends : Option Nat × Option Nat × CallSite) : Option CallEdge := do
  let caller ← ends.1.bind (nodes[·]?)
  let callee ← ends.2.1.bind (nodes[·]?)
  pure ⟨caller.id, callee.id, ends.2.2⟩

theorem edgeAt?_placed {c : CallGraph} (sound : c.Sound) {edge : CallEdge} (member : edge ∈ c.edges) :
    edgeAt? c.nodes (c.placed edge) = some edge := by
  obtain ⟨source, target, from_, to_⟩ := sound.ends_positions member
  obtain ⟨f, first, named⟩ := Option.map_eq_some_iff.mp ((sound.index?_iff _ _).mp from_)
  obtain ⟨h, second, called⟩ := Option.map_eq_some_iff.mp ((sound.index?_iff _ _).mp to_)
  simp [edgeAt?, CallGraph.placed, from_, to_, first, second, named, called]

/-- The table is a map from the ids of the nodes, and from no others, to the positions of the nodes: no
two ids lead to one position, and every position is led to. -/
structure Tabled (g : IndexedGraph) : Prop where
  keys : (g.table.map Prod.fst).Nodup
  ids : g.table.map Prod.fst = g.nodes.map FuncRef.id
  positions : g.table.map Prod.snd = List.range g.nodes.length
  found : ∀ id position, g.position? id = some position ↔
    (g.nodes[position]?).map FuncRef.id = some id

def add (g : IndexedGraph) : Addition → IndexedGraph × Option Nat
  | .node f => ((g.place f).1, none)
  | .edge site caller callee =>
    let added := g.connect site caller callee
    (added.1, some added.2)

def build (additions : List Addition) : IndexedGraph :=
  additions.foldl (fun g addition => (g.add addition).1) empty

def given (g : IndexedGraph) : List Addition → List Nat
  | [] => []
  | addition :: rest => (g.add addition).2.toList ++ (g.add addition).1.given rest

structure Keeps (g : IndexedGraph) (c : CallGraph) : Prop where
  nodes : g.nodes = c.nodes
  table : g.table = positions c.nodes
  links : g.links.map Link.placed = c.edges.map c.placed

variable {g : IndexedGraph} {c : CallGraph}

namespace Keeps

theorem empty : empty.Keeps .empty := ⟨rfl, rfl, rfl⟩

theorem position?_eq (keeps : g.Keeps c) (id : Nat) : g.position? id = c.index? id := by
  rw [position?, keeps.table, positions, lookup_zipIdx]
  simp [CallGraph.index?]

theorem length_links (keeps : g.Keeps c) : g.links.length = c.edgeCount := by
  have lengths := congrArg List.length keeps.links
  simpa [CallGraph.edgeCount] using lengths

-- Nodes that come behind the others leave the links where they are.
theorem links_of_extends (keeps : g.Keeps c) (sound : c.Sound) {d : CallGraph}
    (nodes : c.nodes <+: d.nodes) : g.links.map Link.placed = c.edges.map d.placed := by
  rw [keeps.links]
  apply List.map_congr_left
  intro edge member
  exact (sound.placed_of_extends nodes member).symm

theorem place (keeps : g.Keeps c) (sound : c.Sound) (f : FuncRef) :
    (g.place f).1.Keeps (c.addNode f) ∧ (c.addNode f).index? f.id = some (g.place f).2 := by
  have looked := keeps.position?_eq f.id
  unfold IndexedGraph.place
  rw [looked]
  cases found : c.index? f.id with
  | some position =>
      rw [CallGraph.addNode_of_found found]
      exact ⟨keeps, found⟩
  | none =>
      have links := keeps.links_of_extends sound (c.nodes_addNode f)
      have position := CallGraph.index?_addNode_of_not_found found
      rw [CallGraph.addNode_of_not_found found] at links position ⊢
      refine ⟨⟨?_, ?_, links⟩, ?_⟩
      · rw [keeps.nodes]
      · rw [keeps.table, keeps.nodes, positions, positions, List.zipIdx_append, List.map_append]
        simp
      · rw [position, keeps.nodes]

theorem connect (keeps : g.Keeps c) (sound : c.Sound) (site : CallSite) (caller callee : FuncRef) :
    (g.connect site caller callee).1.Keeps (c.addEdge site caller callee) ∧
      (g.connect site caller callee).2 = c.edgeCount := by
  obtain ⟨first, source⟩ := keeps.place sound caller
  obtain ⟨second, target⟩ := first.place (sound.add (.node caller)) callee
  -- the caller stays where it is when the callee is mentioned, also if the two are one
  have kept := CallGraph.index?_of_extends ((c.addNode caller).nodes_addNode callee) source
  constructor
  · refine ⟨second.nodes, second.table, ?_⟩
    have last : (c.addEdge site caller callee).placed ⟨caller.id, callee.id, site⟩ =
        (some (g.place caller).2, some ((g.place caller).1.place callee).2, site) := by
      have ends : (c.addEdge site caller callee).placed ⟨caller.id, callee.id, site⟩ =
          ((c.addNode caller).addNode callee).placed ⟨caller.id, callee.id, site⟩ := rfl
      rw [ends, CallGraph.placed, kept, target]
    have old := second.links
    rw [CallGraph.edges_addNode, CallGraph.edges_addNode] at old
    simp only [IndexedGraph.connect, CallGraph.edges_addEdge, List.map_append, List.map_singleton, last,
      old]
    rfl
  · have count := second.length_links
    simpa [CallGraph.edgeCount, IndexedGraph.connect] using count

theorem tabled (keeps : g.Keeps c) (sound : c.Sound) : g.Tabled := by
  have ids : g.table.map Prod.fst = g.nodes.map FuncRef.id := by
    rw [keeps.table, keeps.nodes, positions, List.map_map, ← List.zipIdx_map_fst 0 c.nodes,
      List.map_map, List.zipIdx_map_fst]
    rfl
  constructor
  · rw [ids, keeps.nodes]
    exact sound.ids
  · exact ids
  · rw [keeps.table, keeps.nodes, positions, List.map_map, List.range_eq_range',
      ← List.zipIdx_map_snd]
    rfl
  · intro id position
    rw [keeps.position?_eq, keeps.nodes]
    exact sound.index?_iff id position

theorem callGraph_eq (keeps : g.Keeps c) (sound : c.Sound) : g.callGraph = c := by
  have edges : g.links.filterMap g.edge? = c.edges := by
    calc g.links.filterMap g.edge? = (g.links.map Link.placed).filterMap (edgeAt? g.nodes) := by
          rw [List.filterMap_map]
          rfl
      _ = c.edges.filterMap (edgeAt? c.nodes ∘ c.placed) := by
          rw [keeps.links, keeps.nodes, List.filterMap_map]
      _ = c.edges.filterMap some := by
          apply List.filterMap_congr
          intro edge member
          exact edgeAt?_placed sound member
      _ = c.edges := List.filterMap_some
  rw [callGraph, keeps.nodes, edges]

theorem links_eq (keeps : g.Keeps c) (sound : c.Sound) : g.links = c.edges.map c.linkOf := by
  apply List.map_injective_iff.mpr Link.placed_injective
  rw [keeps.links, List.map_map]
  apply List.map_congr_left
  intro edge member
  obtain ⟨source, target⟩ := sound.linkOf_ends member
  rw [CallGraph.placed, source, target]
  rfl

-- A link leaves the node of an id if and only if its call was made under that id.
theorem linksFrom_eq (keeps : g.Keeps c) (sound : c.Sound) {id source : Nat}
    (found : c.index? id = some source) : g.linksFrom source = (c.callsFrom id).map c.linkOf := by
  have leaves : c.edges.filter (fun edge => (c.linkOf edge).source == source) =
      c.edges.filter (·.caller == id) := by
    apply List.filter_congr
    intro edge member
    rw [Bool.eq_iff_iff, beq_iff_eq, beq_iff_eq]
    exact sound.index?_eq_iff (sound.linkOf_ends member).1 found
  rw [linksFrom, CallGraph.callsFrom, keeps.links_eq sound, List.filter_map, ← List.map_reverse]
  rw [show (fun edge => edge.source == source) ∘ c.linkOf =
    fun edge => (c.linkOf edge).source == source from rfl, leaves]
  exact (List.map_mergeSort (f := c.linkOf) fun a _ b _ => rfl).symm

theorem callees_eq (keeps : g.Keeps c) (sound : c.Sound) (id : Nat) : g.callees id = c.callees id := by
  rw [IndexedGraph.callees, keeps.position?_eq, CallGraph.callees]
  cases found : c.index? id with
  | none =>
      have none_ : c.callsFrom id = [] := by
        rw [List.eq_nil_iff_forall_not_mem]
        intro edge member
        obtain ⟨recorded, rfl⟩ := CallGraph.mem_callsFrom.mp member
        rw [(sound.linkOf_ends recorded).1] at found
        cases found
      rw [none_]
      rfl
  | some source =>
      dsimp only
      rw [keeps.linksFrom_eq sound found, List.filterMap_map]
      apply List.filterMap_congr
      intro edge member
      have recorded := (CallGraph.mem_callsFrom.mp member).1
      rw [Function.comp_apply, keeps.nodes]
      exact CallGraph.node?_of_index? (sound.linkOf_ends recorded).2

theorem hasEdge_eq (keeps : g.Keeps c) (sound : c.Sound) (caller callee : Nat) :
    g.hasEdge caller callee = c.hasEdge caller callee := by
  -- an edge has both its ends among the nodes, so an id without a node has none
  have ends : c.hasEdge caller callee = true → ∃ source target,
      c.index? caller = some source ∧ c.index? callee = some target := by
    intro called
    obtain ⟨edge, member, same⟩ := List.any_eq_true.mp called
    simp only [Bool.and_eq_true, beq_iff_eq] at same
    obtain ⟨rfl, rfl⟩ := same
    obtain ⟨source, target⟩ := sound.linkOf_ends member
    exact ⟨_, _, source, target⟩
  unfold IndexedGraph.hasEdge
  rw [keeps.position?_eq, keeps.position?_eq, keeps.links_eq sound]
  split
  · rename_i source target from_ to_
    rw [List.any_map, CallGraph.hasEdge, Bool.eq_iff_iff, List.any_eq_true, List.any_eq_true]
    refine exists_congr fun edge => and_congr_right fun member => ?_
    obtain ⟨first, second⟩ := sound.linkOf_ends member
    simp only [Function.comp_apply, Bool.and_eq_true, beq_iff_eq]
    exact and_congr (sound.index?_eq_iff first from_) (sound.index?_eq_iff second to_)
  · rename_i missing
    rw [eq_comm, Bool.eq_false_iff]
    intro called
    obtain ⟨source, target, from_, to_⟩ := ends called
    exact missing source target from_ to_

theorem add (keeps : g.Keeps c) (sound : c.Sound) (addition : Addition) :
    (g.add addition).1.Keeps (c.add addition) ∧
      (g.add addition).2 = addition.call?.map fun _ => c.edgeCount := by
  cases addition with
  | node f => exact ⟨(keeps.place sound f).1, rfl⟩
  | edge site caller callee =>
      obtain ⟨after, position⟩ := keeps.connect sound site caller callee
      exact ⟨after, congrArg some position⟩

theorem foldl (additions : List Addition) {g : IndexedGraph} {c : CallGraph} (keeps : g.Keeps c)
    (sound : c.Sound) :
    (additions.foldl (fun g addition => (g.add addition).1) g).Keeps
      (additions.foldl CallGraph.add c) := by
  induction additions generalizing g c with
  | nil => exact keeps
  | cons addition rest ih => exact ih (keeps.add sound addition).1 (sound.add addition)

theorem given (additions : List Addition) {g : IndexedGraph} {c : CallGraph} (keeps : g.Keeps c)
    (sound : c.Sound) :
    g.given additions = List.range' c.edgeCount (additions.filterMap Addition.call?).length := by
  induction additions generalizing g c with
  | nil => rfl
  | cons addition rest ih =>
      obtain ⟨after, position⟩ := keeps.add sound addition
      have edges := congrArg List.length (c.edges_add addition)
      rw [IndexedGraph.given, ih after (sound.add addition), position, List.filterMap_cons]
      cases call : addition.call? with
      | none =>
          rw [call] at edges
          simp_all [CallGraph.edgeCount]
      | some edge =>
          rw [call] at edges
          simp_all [CallGraph.edgeCount, List.range'_succ]

end Keeps

theorem build_keeps (additions : List Addition) : (build additions).Keeps (.build additions) :=
  Keeps.foldl additions Keeps.empty CallGraph.Sound.empty

theorem queries_build (additions : List Addition) :
    (build additions).callees = (CallGraph.build additions).callees ∧
      (build additions).hasEdge = (CallGraph.build additions).hasEdge := by
  have keeps := build_keeps additions
  have sound := CallGraph.build_sound additions
  constructor
  · funext id
    exact keeps.callees_eq sound id
  · funext caller callee
    exact keeps.hasEdge_eq sound caller callee

/-- A call keeps its link, and the link its ends, whatever is added later. -/
theorem link_for_ever (before : List Addition) (site : CallSite) (caller callee : FuncRef) :
    ∃ source target, ∀ after,
      let g := build (before ++ .edge site caller callee :: after)
      g.links[(before.filterMap Addition.call?).length]? = some ⟨source, target, site⟩ ∧
        g.position? caller.id = some source ∧ g.position? callee.id = some target := by
  let called := (CallGraph.build before).addEdge site caller callee
  have knows (id : Nat) (either : caller.id = id ∨ callee.id = id) : called.Knows id :=
    ((CallGraph.build before).knows_addEdge site caller callee id).mpr (Or.inr either)
  obtain ⟨source, from_⟩ := (knows caller.id (Or.inl rfl)).position
  obtain ⟨target, to_⟩ := (knows callee.id (Or.inr rfl)).position
  -- both ends are fixed before anything is said of what comes after
  refine ⟨source, target, ?_⟩
  intro after g
  have keeps := build_keeps (before ++ .edge site caller callee :: after)
  have grown : called.nodes <+:
      (CallGraph.build (before ++ .edge site caller callee :: after)).nodes := by
    rw [CallGraph.build, List.foldl_append]
    exact called.nodes_extend_foldl after
  have first := CallGraph.index?_of_extends grown from_
  have second := CallGraph.index?_of_extends grown to_
  refine ⟨?_, (keeps.position?_eq _).trans first, (keeps.position?_eq _).trans second⟩
  have edge : (CallGraph.build (before ++ .edge site caller callee :: after)).edges[
      (before.filterMap Addition.call?).length]? = some ⟨caller.id, callee.id, site⟩ := by
    rw [CallGraph.edges_build, List.filterMap_append, List.filterMap_cons]
    simp [Addition.call?]
  have link := congrArg (·[(before.filterMap Addition.call?).length]?) keeps.links
  simp only [List.getElem?_map, edge, Option.map_some, CallGraph.placed, first, second] at link
  obtain ⟨found, there, same⟩ := Option.map_eq_some_iff.mp link
  simp only [Link.placed, Prod.mk.injEq, Option.some.injEq] at same
  obtain ⟨rfl, rfl, rfl⟩ := same
  exact there

/-- On every graph that is built. The nodes are the functions in the order in which their ids were first
mentioned, under the names of these mentions. The table leads from exactly these ids to the positions of
the nodes. The calls are given the positions from zero on, one after the other; whatever is added later,
the link at that position joins the nodes of the two ids that the call was added for. The calls of the
four types make up all calls. By function ids it is the graph that the same additions build there, and
the queries for callees and edges answer the same on both. -/
theorem nodes_table_and_links_in_step (additions : List Addition) :
    let g := build additions
    let c := CallGraph.build additions
    g.nodes = firstMentions (additions.flatMap Addition.mentions) ∧
      g.Tabled ∧
      (g.links.length = (additions.filterMap Addition.call?).length ∧
        empty.given additions = List.range g.links.length) ∧
      (∀ before site caller callee, ∃ source target, ∀ after,
        let h := build (before ++ .edge site caller callee :: after)
        h.links[(before.filterMap Addition.call?).length]? = some ⟨source, target, site⟩ ∧
          h.position? caller.id = some source ∧ h.position? callee.id = some target) ∧
      ((CallType.all.map c.edgeCountOf).sum = c.edgeCount ∧ c.edgeCount = g.links.length) ∧
      g.callGraph = c ∧ (g.callees = c.callees ∧ g.hasEdge = c.hasEdge) ∧
      c.nodeTable.Perm g.table := by
  intro g c
  have sound : c.Sound := CallGraph.build_sound additions
  have keeps : g.Keeps c := build_keeps additions
  have count : c.edgeCount = (additions.filterMap Addition.call?).length :=
    congrArg List.length (CallGraph.edges_build additions)
  refine ⟨?_, keeps.tabled sound, ⟨?_, ?_⟩, link_for_ever,
    ⟨c.sum_edgeCountOf, keeps.length_links.symm⟩, keeps.callGraph_eq sound,
    queries_build additions, ?_⟩
  · rw [keeps.nodes]
    exact CallGraph.nodes_build additions
  · rw [keeps.length_links, count]
  · rw [keeps.length_links, count, List.range_eq_range']
    exact Keeps.given additions Keeps.empty CallGraph.Sound.empty
  · rw [keeps.table]
    exact List.mergeSort_perm _ _

end IndexedGraph
end CaptureProbe
