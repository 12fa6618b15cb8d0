import CaptureProbe.CallGraph.Basic
import CaptureProbe.Log.Basic
import CaptureProbe.Output.Sink
import CaptureProbe.Realm
import CaptureProbe.Trace

/-!
The context of a session: the output stream, the realm, the call stack, the records of calls and
observations, and the counters that give out identities. Operations that can fail return their result
beside the context they leave behind, whatever the result. The counters are natural numbers: that
identities and sequence numbers run out, as those of fixed width do, is left out.
-/

namespace CaptureProbe

def FuncRef.top : FuncRef := ⟨0, "<top>"⟩

structure Context where
  sink : Sink
  realm : Realm
  /-- Functions that are executing above the top level, innermost first. -/
  calls : List FuncRef
  graph : CallGraph
  trace : Trace
  nextObject : Nat
  nextFunction : Nat
  nextSite : Nat
  log : List Log.Record
  deriving DecidableEq

namespace Context

def fresh (mode : Mode) (sink : Sink) : Context where
  sink := sink
  realm := ⟨mode, ⟨0, "global"⟩, ⟨1, "exports"⟩⟩
  calls := []
  graph := CallGraph.empty.addNode .top
  trace := .empty
  nextObject := 2
  nextFunction := 1
  nextSite := 0
  log := []

def note (c : Context) (level : Log.Level) (origin : Log.Origin) (message : String) : Context :=
  { c with log := c.log ++ [⟨level, origin, message⟩] }

def newObject (c : Context) (name : String) : ObjectRef × Context :=
  (⟨c.nextObject, name⟩, { c with nextObject := c.nextObject + 1 })

def newFunction (c : Context) (name : String) : FuncRef × Context :=
  (⟨c.nextFunction, name⟩, { c with nextFunction := c.nextFunction + 1 })

def closureName (id : Nat) : String := "closure#" ++ Nat.repr id

def newClosureFunction (c : Context) : FuncRef × Context :=
  c.newFunction (closureName c.nextFunction)

def stack (c : Context) : List FuncRef := c.calls ++ [.top]

def current (c : Context) : FuncRef := c.calls.headD .top

/-- The function that called the one that is executing; at the top level, the top level. -/
def caller (c : Context) : FuncRef := (c.calls.drop 1).headD .top

def enter (c : Context) (callee : FuncRef) (callType : CallType) : Context :=
  let site : CallSite := ⟨c.nextSite, callType⟩
  let noted := c.note .debug .calls
    (c.current.name ++ " -> " ++ callee.name ++ " (" ++ site.display ++ ")")
  { noted with
    nextSite := c.nextSite + 1
    graph := c.graph.addEdge site c.current callee
    calls := callee :: c.calls }

def leave (c : Context) : Context :=
  match c.calls with
  | [] => c.note .warn .calls "Unbalanced return from top level"
  | _ :: rest => { c with calls := rest }

/-- Writes a line with the value. Only a line that was written whole is observed; of one that was not,
the part that fitted stays written. -/
def emit (c : Context) (value : Value) : Except Fault Unit × Context :=
  match c.sink.print value.linePieces with
  | (.ok (), sink) =>
    (.ok (), { c with sink := sink, trace := c.trace.pushEmitted c.caller.name value })
  | (.error fault, sink) => (.error fault, { c with sink := sink })

def observeReceiver (c : Context) (callType : CallType) (receiver : Value) : Context :=
  let noted := c.note .debug .calls
    ("Receiver observed by " ++ callType.display ++ " call: " ++ receiver.display)
  { noted with trace := c.trace.pushReceiver callType receiver }

def flush (c : Context) : Except Fault Unit := c.sink.flush

end Context
end CaptureProbe
