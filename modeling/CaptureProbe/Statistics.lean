import CaptureProbe.CallGraph.Basic
import CaptureProbe.Output.Buffer
import CaptureProbe.Trace

/-!
The statistics of a session: how many functions, closures and calls of each type the call graph
holds, how many observations the trace holds, and the receivers that the probe saw.
-/

namespace CaptureProbe.Statistics

def rule : String := "##########################################################\n"

def closureCount (g : CallGraph) : Nat :=
  (g.nodes.filter fun f => "closure#".toList.isPrefixOf f.name.toList).length

/-- The emitted values told apart by their printed forms. -/
def distinctEmitted (t : Trace) : Nat := (t.emitted.map Value.display).eraseDups.length

def countLine (caption : String) (n : Nat) : List String := [caption, Nat.repr n, "\n"]

def callLine (g : CallGraph) (t : CallType) : List String :=
  ["  #", t.display, " calls: ", Nat.repr (g.edgeCountOf t), "\n"]

def receiverLine (t : CallType) (receiver : Value) : List String :=
  ["Receiver of ", t.display, " call: "] ++ receiver.linePieces

def receiverLines (trace : Trace) (t : CallType) : List String :=
  (trace.receivers t).flatMap (receiverLine t)

/-- The report in the pieces in which it is written. -/
def pieces (g : CallGraph) (t : Trace) : List String :=
  [rule, "Call Graph Statistics:\n"]
    ++ countLine "#Functions: " g.nodeCount
    ++ countLine "#Closures created: " (closureCount g)
    ++ countLine "#Call graph edges: " g.edgeCount
    ++ CallType.all.flatMap (callLine g)
    ++ ["Observation Statistics:\n"]
    ++ countLine "#Observations: " t.length
    ++ countLine "#Emitted lines: " t.emitted.length
    ++ countLine "#Distinct emitted values: " (distinctEmitted t)
    ++ receiverLines t .method
    ++ receiverLines t .explicit
    ++ [rule]

def report (g : CallGraph) (t : Trace) : String := String.join (pieces g t)

def printTo (sink : Sink) (g : CallGraph) (t : Trace) : Except Fault Unit × Sink :=
  Buffer.printAll sink (pieces g t)

end CaptureProbe.Statistics
