import CaptureProbe.Factory

/-!
The aggregate: an object with a holder, in which the receiver probe sits, and a closure factory. A
call of the probe through the holder sees the holder as its receiver.
-/

namespace CaptureProbe

structure Aggregate where
  object : ObjectRef
  holder : ObjectRef
  probe : FuncRef
  factory : Factory
  deriving DecidableEq, Repr

namespace Aggregate

/-- Makes an aggregate of two new objects and two new functions. -/
def make (c : Context) : Aggregate × Context :=
  let (object, c) := c.newObject "aggregate"
  let (holder, c) := c.newObject "probe"
  let (probe, c) := c.newFunction "probe"
  let (factory, c) := c.newFunction "factory"
  (⟨object, holder, probe, ⟨factory⟩⟩, c)

/-- The member of the aggregate under a key. -/
def get? (a : Aggregate) (key : String) : Option Value :=
  if key = "probe" then some (.object a.holder)
  else if key = "factory" then some (.function a.factory.func)
  else none

/-- The member of the holder under a key. -/
def getInHolder? (a : Aggregate) (key : String) : Option Value :=
  if key = "probe" then some (.function a.probe) else none

/-- Calls the probe and returns the receiver it saw. -/
def callProbe (a : Aggregate) (form : CallForm) (c : Context) : Value × Context :=
  let entered := c.enter a.probe form.callType
  (form.receiver, (entered.observeReceiver form.callType form.receiver).leave)

/-- Calls the probe through the holder. -/
def probeImplicit (a : Aggregate) (c : Context) : Value × Context :=
  a.callProbe (.implicit (.object a.holder)) c

/-- Calls the probe with a given receiver. -/
def probeExplicit (a : Aggregate) (receiver : Value) (c : Context) : Value × Context :=
  a.callProbe (.explicit receiver) c

def callFactory (a : Aggregate) (n : Value) (c : Context) : Except Fault Closure × Context :=
  a.factory.invoke n c

end Aggregate
end CaptureProbe
