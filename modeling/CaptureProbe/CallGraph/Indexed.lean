import CaptureProbe.CallGraph.Basic

/-!
The call graph by positions. While a graph grows its nodes are numbered as they come and its calls are
kept between these numbers. A table beside the nodes leads from a function id to a position, so that a
function is given a node when it is first mentioned and finds that node ever after, and a query by ids
goes through the table to the links.
-/

namespace CaptureProbe

structure Link where
  source : Nat
  target : Nat
  site : CallSite
  deriving DecidableEq, Repr

structure IndexedGraph where
  nodes : List FuncRef := []
  links : List Link := []
  table : List (Nat × Nat) := []
  deriving DecidableEq, Repr

namespace IndexedGraph

def empty : IndexedGraph := {}

def position? (g : IndexedGraph) (id : Nat) : Option Nat := g.table.lookup id

def place (g : IndexedGraph) (f : FuncRef) : IndexedGraph × Nat :=
  match g.position? f.id with
  | some position => (g, position)
  | none =>
    let position := g.nodes.length
    ({ g with nodes := g.nodes ++ [f], table := g.table ++ [(f.id, position)] }, position)

def connect (g : IndexedGraph) (site : CallSite) (caller callee : FuncRef) : IndexedGraph × Nat :=
  let source := g.place caller
  let target := source.1.place callee
  ({ target.1 with links := target.1.links ++ [⟨source.2, target.2, site⟩] },
    target.1.links.length)

/-- The links that leave a node, by sequence number; of equal numbers the newest link first. -/
def linksFrom (g : IndexedGraph) (source : Nat) : List Link :=
  (g.links.filter (·.source == source)).reverse.mergeSort fun a b => a.site.seq ≤ b.site.seq

def callees (g : IndexedGraph) (caller : Nat) : List FuncRef :=
  match g.position? caller with
  | none => []
  | some source => (g.linksFrom source).filterMap fun link => g.nodes[link.target]?

def hasEdge (g : IndexedGraph) (caller callee : Nat) : Bool :=
  match g.position? caller, g.position? callee with
  | some source, some target =>
    g.links.any fun link => link.source == source && link.target == target
  | _, _ => false

def edge? (g : IndexedGraph) (link : Link) : Option CallEdge := do
  let caller ← g.nodes[link.source]?
  let callee ← g.nodes[link.target]?
  pure ⟨caller.id, callee.id, link.site⟩

def callGraph (g : IndexedGraph) : CallGraph where
  nodes := g.nodes
  edges := g.links.filterMap g.edge?

end IndexedGraph
end CaptureProbe
