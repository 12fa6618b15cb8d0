import CaptureProbe.Pattern.Tree

/-!
What can be wrong with a written pattern, and how it is reported: the pattern again, marks under the
stretches at fault, and a sentence.
-/

namespace CaptureProbe.Pattern

inductive Cause where
  | classEscapeInvalid
  | classRangeInvalid
  | classRangeLiteral
  | classUnclosed
  | decimalInvalid
  | hexEmpty
  | hexInvalid
  | hexDigitInvalid
  | escapeUnfinished
  | escapeUnrecognized
  | flagDanglingNegation
  | flagDuplicate
  | flagRepeatedNegation
  | flagUnfinished
  | flagUnrecognized
  | groupNameDuplicate
  | groupNameEmpty
  | groupNameInvalid
  | groupNameUnfinished
  | groupUnclosed
  | groupUnopened
  | nestedTooDeep (limit : Nat)
  | countInvalid
  | countEmpty
  | countUnclosed
  | repetitionMissing
  | wordAnchorUnclosed
  | wordAnchorUnrecognized
  | wordAnchorUnfinished
  | propertyInvalid
  | backreference
  | lookAround
  | scriptsNotAllowed
  | invalidBytes
  | propertyUnknown
  | propertyValueUnknown
  | noLetterClassTable
  | noCaseTable
  deriving DecidableEq, Repr

def Cause.message : Cause → String
  | .classEscapeInvalid => "invalid escape sequence found in character class"
  | .classRangeInvalid => "invalid character class range, the start must be <= the end"
  | .classRangeLiteral => "invalid range boundary, must be a literal"
  | .classUnclosed => "unclosed character class"
  | .decimalInvalid => "decimal literal invalid"
  | .hexEmpty => "hexadecimal literal empty"
  | .hexInvalid => "hexadecimal literal is not a Unicode scalar value"
  | .hexDigitInvalid => "invalid hexadecimal digit"
  | .escapeUnfinished => "incomplete escape sequence, reached end of pattern prematurely"
  | .escapeUnrecognized => "unrecognized escape sequence"
  | .flagDanglingNegation => "dangling flag negation operator"
  | .flagDuplicate => "duplicate flag"
  | .flagRepeatedNegation => "flag negation operator repeated"
  | .flagUnfinished => "expected flag but got end of regex"
  | .flagUnrecognized => "unrecognized flag"
  | .groupNameDuplicate => "duplicate capture group name"
  | .groupNameEmpty => "empty capture group name"
  | .groupNameInvalid => "invalid capture group character"
  | .groupNameUnfinished => "unclosed capture group name"
  | .groupUnclosed => "unclosed group"
  | .groupUnopened => "unopened group"
  | .nestedTooDeep limit =>
    "exceed the maximum number of nested parentheses/brackets (" ++ Nat.repr limit ++ ")"
  | .countInvalid => "invalid repetition count range, the start must be <= the end"
  | .countEmpty => "repetition quantifier expects a valid decimal"
  | .countUnclosed => "unclosed counted repetition"
  | .repetitionMissing => "repetition operator missing expression"
  | .wordAnchorUnclosed =>
    "special word boundary assertion is either unclosed or contains an invalid character"
  | .wordAnchorUnrecognized =>
    "unrecognized special word boundary assertion, valid choices are: start, end, start-half or "
      ++ "end-half"
  | .wordAnchorUnfinished =>
    "found either the beginning of a special word boundary or a bounded repetition on a \\b with "
      ++ "an opening brace, but no closing brace"
  | .propertyInvalid => "invalid Unicode character class"
  | .backreference => "backreferences are not supported"
  | .lookAround => "look-around, including look-ahead and look-behind, is not supported"
  | .scriptsNotAllowed => "Unicode not allowed here"
  | .invalidBytes => "pattern can match invalid UTF-8"
  | .propertyUnknown => "Unicode property not found"
  | .propertyValueUnknown => "Unicode property value not found"
  | .noLetterClassTable =>
    "Unicode-aware Perl class not found (make sure the unicode-perl feature is enabled)"
  | .noCaseTable =>
    "Unicode-aware case insensitivity matching is not available (make sure the unicode-case "
      ++ "feature is enabled)"

/-- A cause with the stretch at fault and, where two things clash, the stretch of the earlier one. -/
structure Complaint where
  cause : Cause
  span : Span
  earlier : Option Span := none
  deriving DecidableEq, Repr

structure Position where
  line : Nat
  column : Nat
  deriving DecidableEq, Repr

def Position.after (p : Position) : List Char → Position
  | [] => p
  | c :: rest => if c = '\n' then Position.after ⟨p.line + 1, 1⟩ rest
    else Position.after ⟨p.line, p.column + 1⟩ rest

def positionAt (text : List Char) (offset : Nat) : Position :=
  Position.after ⟨1, 1⟩ (text.take offset)

namespace Complaint

structure Stretch where
  first : Position
  last : Position

def stretches (c : Complaint) (text : List Char) : List Stretch :=
  let spans := c.span :: c.earlier.toList
  let ordered := spans.mergeSort fun a b =>
    a.start < b.start || (a.start == b.start && a.stop ≤ b.stop)
  ordered.map fun s => ⟨positionAt text s.start, positionAt text s.stop⟩

def linesFrom (line : List Char) : List Char → List (List Char)
  | [] => if line.isEmpty then [] else [line.reverse]
  | c :: rest =>
    if c = '\n' then
      (if line.head? = some '\r' then line.tail.reverse else line.reverse) :: linesFrom [] rest
    else linesFrom (c :: line) rest

def blanks (n : Nat) : List Char := List.replicate n ' '

/-- The marks under a line from a column on, at least one for each stretch. -/
def marksFrom (column : Nat) : List Stretch → List Char
  | [] => []
  | s :: rest =>
    let gap := s.first.column - column
    let count := max 1 (s.last.column - s.first.column)
    blanks gap ++ List.replicate count '^' ++ marksFrom (column + gap + count) rest

def markLine (padding : Nat) (here : List Stretch) : List Char :=
  if here.isEmpty then [] else blanks padding ++ marksFrom 1 here ++ ['\n']

def marked (width : Nat) (all : List Stretch) (number : Nat) : List (List Char) → List Char
  | [] => []
  | line :: rest =>
    let digits := (Nat.repr number).toList
    let caption :=
      if width = 0 then blanks 4 else blanks (width - digits.length) ++ digits ++ [':', ' ']
    let here := all.filter fun s => s.first.line == number && s.last.line == number
    caption ++ line ++ ['\n'] ++ markLine (if width = 0 then 4 else width + 2) here
      ++ marked width all (number + 1) rest

def spanNotes (all : List Stretch) : List Char :=
  (all.filter fun s => s.first.line != s.last.line).flatMap fun s =>
    ("on line " ++ Nat.repr s.first.line ++ " (column " ++ Nat.repr s.first.column
      ++ ") through line " ++ Nat.repr s.last.line ++ " (column " ++ Nat.repr (s.last.column - 1)
      ++ ")\n").toList

def report (c : Complaint) (text : List Char) : String :=
  let all := c.stretches text
  let lines := linesFrom [] text
  let body :=
    if text.contains '\n' then
      let count := if text.getLast? = some '\n' then lines.length + 1 else lines.length
      let width := if count ≤ 1 then 0 else (Nat.repr count).length
      let rule := List.replicate 79 '~' ++ ['\n']
      rule ++ marked width all 1 lines ++ rule ++ spanNotes all
    else marked 0 all 1 lines
  "regex parse error:\n" ++ String.ofList body ++ "error: " ++ c.cause.message

end Complaint
end CaptureProbe.Pattern
