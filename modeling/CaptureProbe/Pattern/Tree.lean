import CaptureProbe.Pattern.Basic

/-!
Patterns as they are written: a tree whose nodes keep the stretch of the written text that they stand
for. What a node means depends on the flags in force, and is settled later.
-/

namespace CaptureProbe.Pattern

/-- A stretch of a written pattern, from an offset up to but not including another. -/
structure Span where
  start : Nat
  stop : Nat
  deriving DecidableEq, Repr

inductive Flag where
  | caseless
  | multiLine
  | dotAll
  | lazy
  | scripts
  | carriageReturns
  | verbose
  deriving DecidableEq, Repr

def Flag.ofLetter? (c : Char) : Option Flag :=
  if c = 'i' then some .caseless
  else if c = 'm' then some .multiLine
  else if c = 's' then some .dotAll
  else if c = 'U' then some .lazy
  else if c = 'u' then some .scripts
  else if c = 'R' then some .carriageReturns
  else if c = 'x' then some .verbose
  else none

structure FlagItem where
  span : Span
  /-- Absent for the minus sign, behind which flags are turned off. -/
  flag : Option Flag
  deriving DecidableEq, Repr

def flagSetting (flag : Flag) (on : Bool) : List FlagItem → Option Bool
  | [] => none
  | item :: rest =>
    match item.flag with
    | none => flagSetting flag false rest
    | some found => if found = flag then some on else flagSetting flag on rest

inductive LetterClass where
  | digit
  | space
  | word
  deriving DecidableEq, Repr

inductive NamedClass where
  | alnum
  | alpha
  | ascii
  | blank
  | cntrl
  | digit
  | graph
  | lower
  | print
  | punct
  | space
  | upper
  | word
  | xdigit
  deriving DecidableEq, Repr

def NamedClass.ofName? (name : String) : Option NamedClass :=
  match name with
  | "alnum" => some .alnum
  | "alpha" => some .alpha
  | "ascii" => some .ascii
  | "blank" => some .blank
  | "cntrl" => some .cntrl
  | "digit" => some .digit
  | "graph" => some .graph
  | "lower" => some .lower
  | "print" => some .print
  | "punct" => some .punct
  | "space" => some .space
  | "upper" => some .upper
  | "word" => some .word
  | "xdigit" => some .xdigit
  | _ => none

structure Literal where
  span : Span
  char : Char
  byte : Bool := false
  deriving DecidableEq, Repr

inductive SetOp where
  | intersection
  | difference
  | symmetricDifference
  deriving DecidableEq, Repr

inductive SetNode where
  | empty (span : Span)
  | literal (l : Literal)
  | range (span : Span) (first last : Literal)
  | named (span : Span) (kind : NamedClass) (negated : Bool)
  | letter (span : Span) (kind : LetterClass) (negated : Bool)
  | property (span : Span) (name : String)
  | bracketed (span : Span) (negated : Bool) (inner : SetNode)
  | union (span : Span) (items : List SetNode)
  | binary (span : Span) (op : SetOp) (left right : SetNode)
  deriving Repr

def SetNode.span : SetNode → Span
  | .empty span => span
  | .literal l => l.span
  | .range span _ _ => span
  | .named span _ _ => span
  | .letter span _ _ => span
  | .property span _ => span
  | .bracketed span _ _ => span
  | .union span _ => span
  | .binary span _ _ _ => span

mutual

def SetNode.holdsAny : SetNode → Bool
  | .empty _ => false
  | .bracketed _ _ inner => inner.holdsAny
  | .union _ items => SetNode.holdAny items
  | .binary _ _ left right => left.holdsAny || right.holdsAny
  | _ => true

def SetNode.holdAny : List SetNode → Bool
  | [] => false
  | item :: rest => item.holdsAny || SetNode.holdAny rest

end

inductive Assertion where
  | start
  | stop
  | textStart
  | textEnd
  | word (a : Anchor)
  deriving DecidableEq, Repr

inductive Node where
  | empty (span : Span)
  | flags (span : Span) (items : List FlagItem)
  | literal (l : Literal)
  | dot (span : Span)
  | assertion (span : Span) (kind : Assertion)
  | letter (span : Span) (kind : LetterClass) (negated : Bool)
  | property (span : Span) (name : String)
  | bracketed (span : Span) (negated : Bool) (inner : SetNode)
  | repetition (span : Span) (item : Node) (least : Nat) (most : Option Nat) (lazy : Bool)
  | group (span : Span) (captures : Bool) (items : List FlagItem) (inner : Node)
  | alternation (span : Span) (branches : List Node)
  | concat (span : Span) (items : List Node)
  deriving Repr

namespace Node

def span : Node → Span
  | .empty span => span
  | .flags span _ => span
  | .literal l => l.span
  | .dot span => span
  | .assertion span _ => span
  | .letter span _ _ => span
  | .property span _ => span
  | .bracketed span _ _ => span
  | .repetition span _ _ _ _ => span
  | .group span _ _ _ => span
  | .alternation span _ => span
  | .concat span _ => span

def sequence (span : Span) : List Node → Node
  | [] => .empty span
  | [item] => item
  | items => .concat span items

def isRepeatable : Node → Bool
  | .empty _ => false
  | .flags _ _ => false
  | _ => true

end Node
end CaptureProbe.Pattern
