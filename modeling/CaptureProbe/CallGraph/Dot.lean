import CaptureProbe.CallGraph.Basic

/-!
The call graph in DOT: a header, a line for each node, a line for each edge, a footer. Labels are
escaped so that each stays on its line and inside its quotes.
-/

namespace CaptureProbe.CallGraph

/-- One character of a label. A line break becomes the two characters that DOT shows as one. -/
def labelChar (c : Char) : List Char :=
  if c = '"' then ['\\', '"']
  else if c = '\\' then ['\\', '\\']
  else if c = '\n' then ['\\', 'l']
  else [c]

def label (s : String) : String := String.ofList (s.toList.flatMap labelChar)

def labelled (text : String) : String := " [ label = \"" ++ label text ++ "\" ]\n"

def nodeLine (index : Nat) (f : FuncRef) : String :=
  "    " ++ Nat.repr index ++ labelled f.name

/-- The line of an edge. An end without a node, which no built graph has, would be shown as node
zero. -/
def edgeLine (g : CallGraph) (edge : CallEdge) : String :=
  "    " ++ Nat.repr ((g.index? edge.caller).getD 0) ++ " -> "
    ++ Nat.repr ((g.index? edge.callee).getD 0) ++ labelled edge.site.display

def toDot (g : CallGraph) : String :=
  "digraph calls \x7b\n"
    ++ String.join (g.nodes.zipIdx.map fun entry => nodeLine entry.2 entry.1)
    ++ String.join (g.edges.map g.edgeLine)
    ++ "\x7d\n"

end CaptureProbe.CallGraph
