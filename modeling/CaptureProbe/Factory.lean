import CaptureProbe.Context

/-!
The closure factory and the closures it makes. Calling the factory emits its argument and returns a
closure over it; calling the closure ignores the argument and calls the factory again with the value
captured.
-/

namespace CaptureProbe

structure Factory where
  func : FuncRef
  deriving DecidableEq, Repr

structure Closure where
  func : FuncRef
  captured : Value
  factory : Factory
  deriving DecidableEq

def Closure.equal (a b : Closure) : Bool :=
  a.func == b.func && a.captured.equal b.captured && a.factory == b.factory

namespace Factory

def body (f : Factory) (n : Value) (c : Context) : Except Fault Closure × Context :=
  match c.emit n with
  | (.ok (), c) =>
    let (func, c) := c.newClosureFunction
    (.ok ⟨func, n, f⟩, c.note .debug .closures (func.name ++ " captured " ++ n.display))
  | (.error fault, c) => (.error fault, c)

/-- Calls the factory. The call is left on either outcome. -/
def invoke (f : Factory) (n : Value) (c : Context) : Except Fault Closure × Context :=
  match f.body n (c.enter f.func .direct) with
  | (result, c) => (result, c.leave)

end Factory

/-- Calls the closure. The argument shows in the log only. -/
def Closure.invoke (f : Closure) (argument : Value) (c : Context) :
    Except Fault Closure × Context :=
  let entered := (c.enter f.func .closure).note .trace .closures
    (f.func.name ++ " ignores its argument " ++ argument.display)
  match f.factory.invoke f.captured entered with
  | (result, c) => (result, c.leave)

end CaptureProbe
