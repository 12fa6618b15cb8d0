import CaptureProbe.Text.Bytes

/-!
Plain text: what is left of a text for a reader who is no terminal. Control sequences are taken out,
and so are control characters other than the breaks between words and lines. A sequence that never
ends takes the rest of the text with it, but a break inside of one lets the characters after it
through again.
-/

namespace CaptureProbe.Text

/-- The control characters that stay: tabulator, line feed, form feed and carriage return. -/
def isBreak (c : Char) : Bool := c = '\t' || c = '\n' || c = '\x0c' || c = '\r'

def isShown (c : Char) : Bool := (' ' ≤ c && c ≠ '\x7f') || isBreak c

inductive Phase where
  | ground
  | escape
  | escapeTail
  | control
  | deviceEntry
  | deviceParameter
  | deviceTail
  | string
  | command
  deriving DecidableEq, Repr

namespace Phase

def afterEscape (c : Char) : Phase :=
  if c < ' ' || '~' < c then .escape
  else if c ≤ '/' then .escapeTail
  else if c = '[' then .control
  else if c = ']' then .command
  else if c = 'P' then .deviceEntry
  else if c = 'X' || c = '^' || c = '_' then .string
  else .ground

def terminates (c : Char) : Bool := (String.utf8EncodeChar c).contains 0x9C

/-- Where a terminal stands after a further character. The escape begins a sequence anywhere, and the
two cancelling characters end one. -/
def next (p : Phase) (c : Char) : Phase :=
  if c = '\x1b' then .escape
  else if c = '\x18' || c = '\x1a' then .ground
  else match p with
    | .ground => .ground
    | .escape => afterEscape c
    | .escapeTail => if '0' ≤ c && c ≤ '~' then .ground else .escapeTail
    | .control => if '@' ≤ c && c ≤ '~' then .ground else .control
    | .deviceEntry =>
      if c < ' ' || '~' < c then .deviceEntry
      else if c ≤ '/' then .deviceTail
      else if c ≤ '?' then .deviceParameter
      else .string
    | .deviceParameter =>
      if c < ' ' || '~' < c then .deviceParameter
      else if c ≤ '/' then .deviceTail
      else if c ≤ ';' then .deviceParameter
      else .string
    | .deviceTail => if '0' ≤ c && c ≤ '~' then .string else .deviceTail
    | .string => if terminates c then .ground else .string
    | .command => if c = '\x07' then .ground else .command

def obeysBreaks : Phase → Bool
  | .escape => true
  | .escapeTail => true
  | .control => true
  | _ => false

end Phase

/-- How far a text was read: the phase, and whether characters pass. Characters that pass after a
break leave the phase as it was, up to the first that is outside of ASCII. -/
structure Passage where
  phase : Phase := .ground
  passing : Bool := true
  deriving DecidableEq, Repr

namespace Passage

def shows (p : Passage) (c : Char) : Bool :=
  if p.passing || p.phase = .ground then isShown c
  else p.phase.obeysBreaks && isBreak c

def next (p : Passage) (c : Char) : Passage :=
  if p.shows c then ⟨if c < '\x80' then p.phase else .ground, true⟩
  else ⟨p.phase.next c, false⟩

def visible (p : Passage) : List Char → List Char
  | [] => []
  | c :: rest =>
    if p.shows c then c :: (p.next c).visible rest else (p.next c).visible rest

end Passage

def plain (s : String) : String := String.ofList (Passage.visible {} s.toList)

end CaptureProbe.Text
