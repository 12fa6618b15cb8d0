/-!
The size of an automaton in the making. A state takes a fixed room, and more for the transitions and
the alternatives that it holds.
-/

namespace CaptureProbe.Pattern

structure Size where
  /-- How many states there are, which is also the number of the next one. -/
  states : Nat := 0
  bytes : Nat := 0
  deriving DecidableEq, Repr

namespace Size

def stateRoom : Nat := 32

def transitionRoom : Nat := 8

def branchRoom : Nat := 4

def limit : Nat := 10485760

def fits (s : Size) : Bool := s.bytes ≤ limit

def addStates (s : Size) (count : Nat) : Size :=
  ⟨s.states + count, s.bytes + stateRoom * count⟩

def addSparse (s : Size) (transitions : Nat) : Size :=
  ⟨s.states + 1, s.bytes + stateRoom + transitionRoom * transitions⟩

def addBranches (s : Size) (count : Nat) : Size := { s with bytes := s.bytes + branchRoom * count }

def grow (step : Size → Size) : Nat → Size → Size
  | 0, s => s
  | count + 1, s => if s.fits then grow step count (step s) else s

/-- Grows as often as asked for. No more states fit than the limit holds, so that is often enough. -/
def times (s : Size) (count : Nat) (step : Size → Size) : Size :=
  grow step (min count (limit / stateRoom + 1)) s

end Size
end CaptureProbe.Pattern
