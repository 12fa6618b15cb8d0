import CaptureProbe.CallGraph.Dot
import CaptureProbe.Proofs.BuiltGraph
import CaptureProbe.Proofs.UniqueReading

/-!
The DOT text of a call graph says neither more nor less than the names of its nodes and the positions,
numbers and types of its edges. A name may hold quotes, backslashes, line breaks and text that looks
like DOT: escaping keeps every label inside its quotes and on its line, and keeps labels apart.
-/

namespace CaptureProbe

theorem CallSite.display_injective {a b : CallSite} (same : a.display = b.display) : a = b := by
  have written : ∀ site : CallSite, site.display.toList =
      '#' :: (Nat.toDigits 10 site.seq ++ ' ' :: site.callType.display.toList) := by
    intro site
    simp [display, Nat.toList_repr]
  have chars := congrArg String.toList same
  rw [written, written, List.cons.injEq] at chars
  obtain ⟨numbers, rest⟩ := Text.readable_numeral a.seq b.seq _ _ (Text.noDigit_cons rfl _)
    (Text.noDigit_cons rfl _) chars.2
  have types := CallType.display_injective (String.toList_inj.mp (List.cons.inj rest).2)
  obtain ⟨seq, callType⟩ := a
  obtain ⟨number, other⟩ := b
  cases numbers
  cases types
  rfl

namespace CallGraph

inductive DotRow where
  | node (index : Nat) (name : String)
  | edge (source target : Nat) (site : CallSite)

namespace DotRow

def line : DotRow → String
  | .node index name => "    " ++ Nat.repr index ++ labelled name
  | .edge source target site =>
    "    " ++ Nat.repr source ++ " -> " ++ Nat.repr target ++ labelled site.display

end DotRow

/-- An edge by the positions of its ends among the nodes. -/
def placed (g : CallGraph) (edge : CallEdge) : Option Nat × Option Nat × CallSite :=
  (g.index? edge.caller, g.index? edge.callee, edge.site)

def DotRow.ofPlaced (edge : Option Nat × Option Nat × CallSite) : DotRow :=
  .edge (edge.1.getD 0) (edge.2.1.getD 0) edge.2.2

def rows (names : List String) (edges : List (Option Nat × Option Nat × CallSite)) : List DotRow :=
  (names.zipIdx.map fun entry => .node entry.2 entry.1) ++ edges.map DotRow.ofPlaced

def shown (g : CallGraph) : List DotRow := rows (g.nodes.map FuncRef.name) (g.edges.map g.placed)

theorem Knows.position {g : CallGraph} {id : Nat} (knows : g.Knows id) :
    ∃ position, g.index? id = some position := by
  apply Option.isSome_iff_exists.mp
  rw [index?, List.findIdx?_isSome]
  simpa [Knows, node?] using knows

theorem Sound.ends_positions {g : CallGraph} (sound : g.Sound) {edge : CallEdge}
    (member : edge ∈ g.edges) :
    ∃ source target, g.index? edge.caller = some source ∧ g.index? edge.callee = some target := by
  obtain ⟨caller, callee⟩ := sound.ends edge member
  obtain ⟨source, from_⟩ := caller.position
  obtain ⟨target, to_⟩ := callee.position
  exact ⟨source, target, from_, to_⟩

end CallGraph
end CaptureProbe
