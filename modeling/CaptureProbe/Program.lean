import CaptureProbe.Aggregate

/-!
The probe program: call the probe in both forms, call the factory, then call the closure it returned
once for each argument. The first emission that fails ends the program.
-/

namespace CaptureProbe.Program

def invokeEach (f : Closure) : List Value → Context → Except Fault Unit × Context
  | [], c => (.ok (), c)
  | argument :: rest, c =>
    match f.invoke argument c with
    | (.ok _, c) => invokeEach f rest c
    | (.error fault, c) => (.error fault, c)

/-- Runs the program on a new aggregate and returns the closure that its arguments went to. -/
def run (capture : Value) (arguments : List Value) (c : Context) :
    Except Fault Closure × Context :=
  let (a, c) := Aggregate.make c
  let (implicit, c) := a.probeImplicit c
  let (explicit, c) := a.probeExplicit c.realm.ambient c
  let c := c.note .debug .program ("Implicit receiver: " ++ implicit.display
    ++ ", explicit receiver: " ++ explicit.display)
  match a.callFactory capture c with
  | (.ok f, c) =>
    match invokeEach f arguments c with
    | (.ok (), c) => (.ok f, c)
    | (.error fault, c) => (.error fault, c)
  | (.error fault, c) => (.error fault, c)

def factoryOnly (capture : Value) (c : Context) : Except Fault Unit × Context :=
  let (a, c) := Aggregate.make c
  match a.callFactory capture c with
  | (.ok _, c) => (.ok (), c)
  | (.error fault, c) => (.error fault, c)

end CaptureProbe.Program
