import CaptureProbe.Call

/-!
The dynamic call graph. Nodes are functions in order of first mention, one for each function id and
under the name it was first mentioned with; every call adds one edge.
-/

namespace CaptureProbe

structure CallEdge where
  caller : Nat
  callee : Nat
  site : CallSite
  deriving DecidableEq, Repr

structure CallGraph where
  nodes : List FuncRef := []
  edges : List CallEdge := []
  deriving DecidableEq, Repr

namespace CallGraph

def empty : CallGraph := {}

def node? (g : CallGraph) (id : Nat) : Option FuncRef := g.nodes.find? (·.id == id)

def index? (g : CallGraph) (id : Nat) : Option Nat := g.nodes.findIdx? (·.id == id)

/-- Mentions a function: it becomes a node unless its id has one. -/
def addNode (g : CallGraph) (f : FuncRef) : CallGraph :=
  if g.nodes.any (·.id == f.id) then g else { g with nodes := g.nodes ++ [f] }

def addEdge (g : CallGraph) (site : CallSite) (caller callee : FuncRef) : CallGraph :=
  let mentioned := (g.addNode caller).addNode callee
  { mentioned with edges := mentioned.edges ++ [⟨caller.id, callee.id, site⟩] }

@[simp] theorem edges_addNode (g : CallGraph) (f : FuncRef) : (g.addNode f).edges = g.edges := by
  unfold addNode
  split <;> rfl

@[simp] theorem edges_addEdge (g : CallGraph) (site : CallSite) (caller callee : FuncRef) :
    (g.addEdge site caller callee).edges = g.edges ++ [⟨caller.id, callee.id, site⟩] := by
  simp [addEdge]

theorem nodes_addNode (g : CallGraph) (f : FuncRef) : g.nodes <+: (g.addNode f).nodes := by
  unfold addNode
  split
  · exact List.prefix_refl _
  · exact List.prefix_append _ _

theorem nodes_addEdge (g : CallGraph) (site : CallSite) (caller callee : FuncRef) :
    g.nodes <+: (g.addEdge site caller callee).nodes :=
  (g.nodes_addNode caller).trans ((g.addNode caller).nodes_addNode callee)

def nodeCount (g : CallGraph) : Nat := g.nodes.length

def edgeCount (g : CallGraph) : Nat := g.edges.length

def edgeCountOf (g : CallGraph) (t : CallType) : Nat :=
  (g.edges.filter (·.site.callType == t)).length

/-- The calls that a function made, by sequence number; of equal numbers the newest call first. -/
def callsFrom (g : CallGraph) (caller : Nat) : List CallEdge :=
  (g.edges.filter (·.caller == caller)).reverse.mergeSort fun a b => a.site.seq ≤ b.site.seq

def callees (g : CallGraph) (caller : Nat) : List FuncRef :=
  (g.callsFrom caller).filterMap fun edge => g.node? edge.callee

def hasEdge (g : CallGraph) (caller callee : Nat) : Bool :=
  g.edges.any fun edge => edge.caller == caller && edge.callee == callee

def nodeTable (g : CallGraph) : List (Nat × Nat) :=
  (g.nodes.zipIdx.map fun entry => (entry.1.id, entry.2)).mergeSort fun a b => a.1 ≤ b.1

end CallGraph
end CaptureProbe
