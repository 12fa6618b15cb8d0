import CaptureProbe.Value.Basic

/-!
Calls: how a call was made, where it stands in the sequence of calls, and what receiver it passes.
-/

namespace CaptureProbe

inductive CallType where
  | method
  | explicit
  | direct
  | closure
  deriving DecidableEq, Repr

namespace CallType

def all : List CallType := [.method, .explicit, .direct, .closure]

def display : CallType → String
  | .method => "method"
  | .explicit => "explicit"
  | .direct => "direct"
  | .closure => "closure"

theorem display_injective {t u : CallType} (same : t.display = u.display) : t = u := by
  cases t <;> cases u <;> revert same <;> decide

end CallType

structure CallSite where
  seq : Nat
  callType : CallType
  deriving DecidableEq, Repr

def CallSite.display (site : CallSite) : String :=
  "#" ++ Nat.repr site.seq ++ " " ++ site.callType.display

/-- How a function that takes a receiver is called: through the object it was read from, or with a
receiver that the caller gives. -/
inductive CallForm where
  | implicit (base : Value)
  | explicit (receiver : Value)
  deriving DecidableEq

namespace CallForm

def callType : CallForm → CallType
  | .implicit _ => .method
  | .explicit _ => .explicit

def receiver : CallForm → Value
  | .implicit base => base
  | .explicit receiver => receiver

end CallForm
end CaptureProbe
