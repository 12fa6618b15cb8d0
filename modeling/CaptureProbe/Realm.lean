import CaptureProbe.Value.Basic

/-!
The realm of a session: its execution mode, and the objects that the mode may choose as the ambient
receiver of top-level code.
-/

namespace CaptureProbe

inductive Mode where
  | strict
  | sloppy
  | module
  deriving DecidableEq, Repr

namespace Mode

def display : Mode → String
  | .strict => "strict"
  | .sloppy => "sloppy"
  | .module => "module"

/-- Reads the name of a mode. A script is sloppy code. -/
def read? (s : String) : Option Mode :=
  if s = "strict" then some .strict
  else if s = "sloppy" ∨ s = "script" then some .sloppy
  else if s = "module" then some .module
  else none

def unknownMessage (s : String) : String := "unknown execution mode `" ++ s ++ "`"

end Mode

structure Realm where
  mode : Mode
  global : ObjectRef
  exports : ObjectRef
  deriving DecidableEq, Repr

def Realm.ambient (realm : Realm) : Value :=
  match realm.mode with
  | .strict => .undefined
  | .sloppy => .object realm.global
  | .module => .object realm.exports

end CaptureProbe
