import CaptureProbe.Pattern.ByteRanges
import CaptureProbe.Pattern.Size

/-!
The states for one character of a set. A set of ASCII characters takes one state and its end. For other
sets byte ranges are laid out one after the other: backward, sequences share the states of what they
begin with; forward, they share those of what they end with.
-/

namespace CaptureProbe.Pattern.ClassStates

abbrev Known (α : Type) := List (α × Nat)

/-- A state read backward: the state that it leads to, and the bytes on which it does. -/
abbrev BackwardState := Nat × Interval

def addBackwardRange (next : Size × Known BackwardState × Nat) (range : Interval) :
    Size × Known BackwardState × Nat :=
  let (s, known, stop) := next
  match known.lookup (stop, range) with
  | some state => (s, known, state)
  | none => (s.addStates 1, ((stop, range), s.states) :: known, s.states)

def addBackward (sequences : List ByteRanges) (s : Size) : Size :=
  let stop := s.states + 1
  (sequences.foldl
    (fun (s, known) ranges =>
      let (s, known, _) := ranges.foldl addBackwardRange (s, known, stop)
      (s.addBranches 1, known))
    (s.addStates 2, ([] : Known BackwardState))).1

abbrev ForwardState := List (Interval × Nat)

def groupHeads : List ByteRanges → List (Interval × List ByteRanges)
  | [] => []
  | [] :: rest => groupHeads rest
  | (range :: tail) :: rest =>
    match groupHeads rest with
    | (next, tails) :: more =>
      if range = next then (range, tail :: tails) :: more
      else (range, [tail]) :: (next, tails) :: more
    | [] => [(range, [tail])]

def addForwardState (s : Size) (known : Known ForwardState) (held : ForwardState) :
    Nat × Size × Known ForwardState :=
  match known.lookup held with
  | some state => (state, s, known)
  | none => (s.states, s.addSparse held.length, (held, s.states) :: known)

/-- Lays out sequences forward, up to a state at which all end. The depth is the greatest length of a
sequence. -/
def addForwardFrom (stop : Nat) :
    Nat → List ByteRanges → Size → Known ForwardState → Nat × Size × Known ForwardState
  | 0, _, s, known => (stop, s, known)
  | depth + 1, sequences, s, known =>
    let (held, s, known) := (groupHeads sequences).foldl
      (fun (held, s, known) (range, tails) =>
        if tails.all (·.isEmpty) then (held ++ [(range, stop)], s, known)
        else
          let (state, s, known) := addForwardFrom stop depth tails s known
          (held ++ [(range, state)], s, known))
      (([] : ForwardState), s, known)
    addForwardState s known held

def longest : Nat := 4

def addForward (sequences : List ByteRanges) (s : Size) : Size :=
  (addForwardFrom s.states longest sequences (s.addStates 1) []).2.1

def add (backward : Bool) (set : CharSet) (s : Size) : Size :=
  if set.isAscii then (s.addStates 1).addSparse set.intervals.length
  else if backward then addBackward (ByteRanges.ofSet set) s
  else addForward (ByteRanges.ofSet set) s

end CaptureProbe.Pattern.ClassStates
