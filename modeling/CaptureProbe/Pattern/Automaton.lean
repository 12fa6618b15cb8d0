import CaptureProbe.Pattern.Basic
import CaptureProbe.Pattern.ClassStates
import CaptureProbe.Pattern.WordTree
import CaptureProbe.Text.Bytes

/-!
The size of the automata that look for a pattern: one reads a text forward, the other backward. A
repetition is laid out as often as it may be needed.
-/

namespace CaptureProbe.Pattern

/-- What a pattern is laid out as: on its own, or as the second or a later branch of a choice. -/
inductive Part where
  | whole
  | second
  | later
  deriving DecidableEq, Repr

def literals? : Pattern → Option (List (List Char))
  | .literal text => some [text]
  | .either p q => do pure ((← p.literals?) ++ (← q.literals?))
  | _ => none

def addLiterals (backward : Bool) (texts : List (List Char)) (s : Size) : Size :=
  let words := texts.map fun text => Text.bytes (String.ofList text)
  WordTree.add (if backward then words.map List.reverse else words) s

def addFork (part : Part) (s : Size) : Size :=
  match part with
  | .second => s.addStates 2
  | _ => s

/-- Lays out a pattern. A fork is counted with all alternatives that it will have in the end. -/
def layOut (backward : Bool) : Pattern → Part → Size → Size
  | .empty, part, s => addFork part (s.addStates 1)
  | .literal text, part, s =>
    addFork part (s.addStates (Text.bytes (String.ofList text)).length)
  | .one set _, part, s => addFork part (ClassStates.add backward set s)
  | .anchor _, part, s => addFork part (s.addStates 1)
  | .scriptAnchor _, part, s => addFork part (s.addStates 1)
  | .capture _ p, part, s =>
    addFork part (if backward then layOut backward p .whole s
      else (layOut backward p .whole (s.addStates 1)).addStates 1)
  | .seq p q, part, s =>
    addFork part (if backward then layOut backward p .whole (layOut backward q .whole s)
      else layOut backward q .whole (layOut backward p .whole s))
  | .either p q, .whole, s =>
    match literals? (.either p q) with
    | some texts => addLiterals backward texts s
    | none => layOut backward q .second (layOut backward p .whole (s.addBranches 1)) |>.addBranches 1
  | .either p q, part, s =>
    layOut backward q .later (addFork part (layOut backward p .whole (s.addBranches 1)))
  | .repeated p least most _, part, s =>
    let once := layOut backward p .whole
    addFork part (match least, most with
      | 0, some 1 => (once (s.addStates 1)).addStates 1 |>.addBranches 2
      | 0, none =>
        if p.leastLength?.any (0 < ·) then (once (s.addStates 1)).addBranches 2
        else ((once s).addStates 3).addBranches 4
      | least, none => (s.times least once).addStates 1 |>.addBranches 2
      | least, some most =>
        let start := if least = 0 then s.addStates 1 else s.times least once
        if least = most then start
        else (start.addStates 1).times (most - least) fun s =>
          once (s.addStates 1) |>.addBranches 2)

def addFront (anchored : Bool) (s : Size) : Size :=
  if anchored then s.addStates 1 else (s.addStates 2).addSparse 1 |>.addBranches 2

def forwardSize (p : Pattern) : Size :=
  (layOut false p .whole ((addFront p.beginsAtStart {}).addStates 1)).addStates 2

def backwardSize (p : Pattern) : Size :=
  (layOut true p .whole (addFront p.endsAtEnd {})).addStates 1

end CaptureProbe.Pattern
