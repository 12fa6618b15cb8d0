import CaptureProbe.Pattern.Complaint
import CaptureProbe.Text.Space

/-!
A place in a written pattern that is being read. In verbose patterns blanks and comments between the
parts are passed over.
-/

namespace CaptureProbe.Pattern

structure Cursor where
  rest : List Char
  offset : Nat := 0
  verbose : Bool := false
  deriving DecidableEq, Repr

namespace Cursor

def atEnd (c : Cursor) : Bool := c.rest.isEmpty

def char? (c : Cursor) : Option Char := c.rest.head?

def peek? (c : Cursor) : Option Char := c.rest.tail.head?

def point (c : Cursor) : Span := ⟨c.offset, c.offset⟩

def charSpan (c : Cursor) : Span := ⟨c.offset, c.offset + 1⟩

def spanFrom (c : Cursor) (start : Nat) : Span := ⟨start, c.offset⟩

def next (c : Cursor) : Cursor :=
  match c.rest with
  | [] => c
  | _ :: rest => { c with rest := rest, offset := c.offset + 1 }

def advance (c : Cursor) (count : Nat) : Cursor :=
  { c with rest := c.rest.drop count, offset := c.offset + count }

/-- How many characters blanks and comments at the front take. A comment goes to the end of its
line. -/
def blankLength (comment : Bool) : List Char → Nat
  | [] => 0
  | c :: rest =>
    if comment then blankLength (c ≠ '\n') rest + 1
    else if Text.isSpace c then blankLength false rest + 1
    else if c = '#' then blankLength true rest + 1
    else 0

def skip (c : Cursor) : Cursor :=
  if c.verbose then c.advance (blankLength false c.rest) else c

def nextSkip (c : Cursor) : Cursor := c.next.skip

def eat? (c : Cursor) (text : String) : Option Cursor :=
  if text.toList.isPrefixOf c.rest then some (c.advance text.toList.length) else none

def firstCounting? (comment : Bool) : List Char → Option Char
  | [] => none
  | c :: rest =>
    if Text.isSpace c then firstCounting? comment rest
    else if !comment && c = '#' then firstCounting? true rest
    else some c

/-- The character that counts behind the next one. Where none does, it is the very next. -/
def peekSkip? (c : Cursor) : Option Char :=
  if c.verbose then (firstCounting? false c.rest.tail).or c.peek? else c.peek?

def collect (p : Char → Bool) : Nat → Cursor → List Char × Cursor
  | 0, c => ([], c)
  | fuel + 1, c =>
    match c.rest with
    | [] => ([], c)
    | d :: _ =>
      if p d then
        let (more, c) := collect p fuel c.nextSkip
        (d :: more, c)
      else ([], c)

def takeWhile (c : Cursor) (p : Char → Bool) : List Char × Cursor := collect p c.rest.length c

def dropSpaces (c : Cursor) : Cursor := c.advance (c.rest.takeWhile Text.isSpace).length

end Cursor
end CaptureProbe.Pattern
