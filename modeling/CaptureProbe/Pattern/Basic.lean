import CaptureProbe.Pattern.CharSet

/-!
Patterns that are looked for in a text: characters, anchors, sequence, choice and repetition.
-/

namespace CaptureProbe

inductive Anchor where
  | textStart
  | textEnd
  | lineStart
  | lineEnd
  /-- The start of a line, where a carriage return ends a line as well, but not inside of a pair of
  carriage return and line feed. -/
  | lineStartAny
  | lineEndAny
  | wordEdge
  | noWordEdge
  | wordStart
  | wordEnd
  | wordStartHalf
  | wordEndHalf
  deriving DecidableEq, Repr

namespace Anchor

def inWord : Option Char → Bool
  | none => false
  | some c => CharSet.word.contains c

def holds (before after : Option Char) : Anchor → Bool
  | .textStart => before.isNone
  | .textEnd => after.isNone
  | .lineStart => before.isNone || before = some '\n'
  | .lineEnd => after.isNone || after = some '\n'
  | .lineStartAny =>
    before.isNone || before = some '\n' || (before = some '\r' && after ≠ some '\n')
  | .lineEndAny => after.isNone || after = some '\r' || (after = some '\n' && before ≠ some '\r')
  | .wordEdge => inWord before != inWord after
  | .noWordEdge => inWord before == inWord after
  | .wordStart => !inWord before && inWord after
  | .wordEnd => inWord before && !inWord after
  | .wordStartHalf => !inWord before
  | .wordEndHalf => !inWord after

def holdsInside (a : Anchor) : Bool := a.holds (some '\x80') (some '\x80')

end Anchor

/-- A pattern. Sequences and choices of more than two lean to the right: the second part holds all
parts but the first. -/
inductive Pattern where
  | empty
  | literal (text : List Char)
  | one (set : CharSet) (bytes : Bool)
  | anchor (a : Anchor)
  | scriptAnchor (a : Anchor)
  | capture (offset : Nat) (p : Pattern)
  | seq (p q : Pattern)
  | either (p q : Pattern)
  /-- At least `least` times, and at most `most` times if that is bounded; long matches come first if it
  is greedy. -/
  | repeated (p : Pattern) (least : Nat) (most : Option Nat) (greedy : Bool)
  deriving DecidableEq, Repr

namespace Pattern

def never : Pattern := .one .none true

def items : Pattern → List Pattern
  | .empty => []
  | .seq p q => p :: q.items
  | p => [p]

def branches : Pattern → List Pattern
  | .either p q => p :: q.branches
  | p => [p]

def isWeightless : Pattern → Bool
  | .empty => true
  | .anchor _ => true
  | .scriptAnchor _ => true
  | .capture _ p => p.isWeightless
  | .seq p q => p.isWeightless && q.isWeightless
  | .either p q => p.isWeightless && q.isWeightless
  | .repeated p _ most _ => p.isWeightless && most.isSome
  | _ => false

/-- The least number of characters of a match. Where a part is a set without characters, none is
known. -/
def leastLength? : Pattern → Option Nat
  | .literal text => some text.length
  | .one set _ => if set.isEmpty then none else some 1
  | .capture _ p => p.leastLength?
  | .seq p q => do pure ((← p.leastLength?) + (← q.leastLength?))
  | .either p q => do pure (min (← p.leastLength?) (← q.leastLength?))
  | .repeated p least _ _ => p.leastLength?.map (least * ·)
  | _ => some 0

def beginsAtStart : Pattern → Bool
  | .anchor a => a = .textStart
  | .capture _ p => p.beginsAtStart
  | .seq p q => p.beginsAtStart || (p.isWeightless && q.beginsAtStart)
  | .either p q => p.beginsAtStart && q.beginsAtStart
  | .repeated p least _ _ => 0 < least && p.beginsAtStart
  | _ => false

def endsAtEnd : Pattern → Bool
  | .anchor a => a = .textEnd
  | .capture _ p => p.endsAtEnd
  | .seq p q => q.endsAtEnd || (q.isWeightless && p.endsAtEnd)
  | .either p q => p.endsAtEnd && q.endsAtEnd
  | .repeated p least _ _ => 0 < least && p.endsAtEnd
  | _ => false

def needsScripts : Pattern → Bool
  | .scriptAnchor _ => true
  | .capture _ p => p.needsScripts
  | .seq p q => p.needsScripts || q.needsScripts
  | .either p q => p.needsScripts || q.needsScripts
  | .repeated p _ _ _ => p.needsScripts
  | _ => false

end Pattern
end CaptureProbe
