import CaptureProbe.Program

/-!
Sessions: a context together with the references that its operations returned. Operations name
earlier results by position; one that names a result that does not exist is not performed.
-/

namespace CaptureProbe

inductive Operand where
  | constant (value : Value)
  | object (i : Nat)
  | function (i : Nat)
  | aggregate (i : Nat)
  | holder (i : Nat)
  | factory (i : Nat)
  | closure (i : Nat)
  | captured (i : Nat)
  | ambient
  | global
  | exports
  | top
  deriving DecidableEq

structure Session where
  context : Context
  objects : List ObjectRef := []
  functions : List FuncRef := []
  aggregates : List Aggregate := []
  factories : List Factory := []
  closures : List Closure := []
  deriving DecidableEq

inductive Operation where
  | newObject (name : String)
  | newFunction (name : String)
  | newClosureFunction
  | newFactory (func : Operand)
  | newAggregate
  | probeImplicit (aggregate : Nat)
  | probeExplicit (aggregate : Nat) (receiver : Operand)
  | probeThrough (aggregate : Nat) (base : Operand)
  | callFactory (aggregate : Nat) (argument : Operand)
  | invokeFactory (factory : Nat) (argument : Operand)
  | invokeClosure (closure : Nat) (argument : Operand)
  | runProgram (capture : Operand) (arguments : List Operand)
  | runFactoryOnly (capture : Operand)
  | enter (func : Operand) (callType : CallType)
  | leave
  | emit (value : Operand)
  | observeReceiver (callType : CallType) (receiver : Operand)
  | flush
  deriving DecidableEq

inductive Outcome where
  | done
  | object (ref : ObjectRef)
  | function (ref : FuncRef)
  | aggregate (a : Aggregate)
  | value (v : Value)
  | closure (f : Closure)
  | failed (fault : Fault)
  deriving DecidableEq

namespace Session

def fresh (mode : Mode) (sink : Sink) : Session := { context := .fresh mode sink }

def value? (s : Session) : Operand → Option Value
  | .constant value => some value
  | .object i => s.objects[i]?.map .object
  | .function i => s.functions[i]?.map .function
  | .aggregate i => s.aggregates[i]?.map (.object ·.object)
  | .holder i => s.aggregates[i]?.map (.object ·.holder)
  | .factory i => s.factories[i]?.map (.function ·.func)
  | .closure i => s.closures[i]?.map (.function ·.func)
  | .captured i => s.closures[i]?.map (·.captured)
  | .ambient => some s.context.realm.ambient
  | .global => some (.object s.context.realm.global)
  | .exports => some (.object s.context.realm.exports)
  | .top => some (.function .top)

def function? (s : Session) (operand : Operand) : Option FuncRef :=
  match s.value? operand with
  | some (.function f) => some f
  | _ => none

def after (s : Session) (c : Context) : Session := { s with context := c }

def keepClosure (s : Session) : Except Fault Closure × Context → Outcome × Session
  | (.ok f, c) => (.closure f, { s with context := c, closures := s.closures ++ [f] })
  | (.error fault, c) => (.failed fault, s.after c)

def settle (s : Session) : Except Fault Unit × Context → Outcome × Session
  | (.ok (), c) => (.done, s.after c)
  | (.error fault, c) => (.failed fault, s.after c)

def observed (s : Session) : Value × Context → Outcome × Session
  | (value, c) => (.value value, s.after c)

/-- Performs an operation, unless it names something that the session does not have. -/
def perform (s : Session) : Operation → Option (Outcome × Session)
  | .newObject name =>
    let (ref, c) := s.context.newObject name
    some (.object ref, { s with context := c, objects := s.objects ++ [ref] })
  | .newFunction name =>
    let (ref, c) := s.context.newFunction name
    some (.function ref, { s with context := c, functions := s.functions ++ [ref] })
  | .newClosureFunction =>
    let (ref, c) := s.context.newClosureFunction
    some (.function ref, { s with context := c, functions := s.functions ++ [ref] })
  | .newFactory func =>
    (s.function? func).map fun f =>
      (.function f, { s with factories := s.factories ++ [⟨f⟩] })
  | .newAggregate =>
    let (a, c) := Aggregate.make s.context
    some (.aggregate a, { s with
      context := c
      aggregates := s.aggregates ++ [a]
      factories := s.factories ++ [a.factory] })
  | .probeImplicit i => do
    let a ← s.aggregates[i]?
    pure (s.observed (a.probeImplicit s.context))
  | .probeExplicit i receiver => do
    let a ← s.aggregates[i]?
    let v ← s.value? receiver
    pure (s.observed (a.probeExplicit v s.context))
  | .probeThrough i base => do
    let a ← s.aggregates[i]?
    let v ← s.value? base
    pure (s.observed (a.callProbe (.implicit v) s.context))
  | .callFactory i argument => do
    let a ← s.aggregates[i]?
    let v ← s.value? argument
    pure (s.keepClosure (a.callFactory v s.context))
  | .invokeFactory i argument => do
    let f ← s.factories[i]?
    let v ← s.value? argument
    pure (s.keepClosure (f.invoke v s.context))
  | .invokeClosure i argument => do
    let f ← s.closures[i]?
    let v ← s.value? argument
    pure (s.keepClosure (f.invoke v s.context))
  | .runProgram capture arguments => do
    let v ← s.value? capture
    let vs ← arguments.mapM s.value?
    pure (s.keepClosure (Program.run v vs s.context))
  | .runFactoryOnly capture => do
    let v ← s.value? capture
    pure (s.settle (Program.factoryOnly v s.context))
  | .enter func callType =>
    (s.function? func).map fun f => (.done, s.after (s.context.enter f callType))
  | .leave => some (.done, s.after s.context.leave)
  | .emit value => do
    let v ← s.value? value
    pure (s.settle (s.context.emit v))
  | .observeReceiver callType receiver => do
    let v ← s.value? receiver
    pure (.done, s.after (s.context.observeReceiver callType v))
  | .flush => some (s.settle (s.context.flush, s.context))

/-- The session after an operation; one that is not performed changes nothing. -/
def step (s : Session) (operation : Operation) : Session :=
  match s.perform operation with
  | some (_, next) => next
  | none => s

def runAll (s : Session) (operations : List Operation) : Session := operations.foldl step s

end Session
end CaptureProbe
