import CaptureProbe.Pattern.Cursor

/-!
Escapes of a written pattern: what stands behind a backslash. An escape is a literal, a class of
characters or an anchor.
-/

namespace CaptureProbe.Pattern

def complain {α : Type} (cause : Cause) (span : Span) : Except Complaint α := .error ⟨cause, span, none⟩

def isMeta (c : Char) : Bool := "\\.+*?()|[]\x7b\x7d^$#&-~".toList.contains c

def isEscapable (c : Char) : Bool :=
  isMeta c || (c < '\x80' && !c.isAlphanum && c ≠ '<' && c ≠ '>')

def hexDigit? (c : Char) : Option Nat :=
  if c.isDigit then some (c.toNat - '0'.toNat)
  else if 'a' ≤ c && c ≤ 'f' then some (c.toNat - 'a'.toNat + 10)
  else if 'A' ≤ c && c ≤ 'F' then some (c.toNat - 'A'.toNat + 10)
  else none

def hexNumber (digits : List Nat) : Nat := digits.foldl (fun total d => 16 * total + d) 0

def scalar? (code : Nat) : Option Char :=
  if valid : code.isValidChar then some (Char.ofNatAux code valid) else none

/-- A literal by its code point. `digits` is the stretch of the digits. -/
def hexLiteral (start : Nat) (digits : Span) (code : Nat) (byte : Bool) (c : Cursor) :
    Except Complaint (Node × Cursor) :=
  match scalar? code with
  | none => complain .hexInvalid digits
  | some char => .ok (.literal ⟨c.spanFrom start, char, byte⟩, c)

def readHexDigits : Nat → Cursor → Except Complaint (List Nat × Cursor)
  | 0, c => .ok ([], c)
  | count + 1, c =>
    match c.char? with
    | none => complain .escapeUnfinished c.point
    | some d =>
      match hexDigit? d with
      | none => complain .hexDigitInvalid c.charSpan
      | some digit => do
        let (more, c) ← readHexDigits count c.nextSkip
        pure (digit :: more, c)

def readHexBraced (brace : Nat) : Nat → Cursor → Except Complaint (List Nat × Cursor)
  | 0, c => complain .escapeUnfinished (c.spanFrom brace)
  | fuel + 1, c =>
    match c.char? with
    | none => complain .escapeUnfinished (c.spanFrom brace)
    | some d =>
      if d = '\x7d' then .ok ([], c)
      else match hexDigit? d with
        | none => complain .hexDigitInvalid c.charSpan
        | some digit => do
          let (more, c) ← readHexBraced brace fuel c.nextSkip
          pure (digit :: more, c)

/-- A character by its code point. The cursor is at the letter, which fixes the number of digits. -/
def readHex (start : Nat) (letter : Char) (c : Cursor) : Except Complaint (Node × Cursor) := do
  let c := c.nextSkip
  match c.char? with
  | none => complain .escapeUnfinished c.point
  | some d =>
    let first := c.offset
    if d = '\x7b' then
      let (digits, c) ← readHexBraced first (c.rest.length + 1) c.nextSkip
      let close := c.offset
      let c := c.nextSkip
      if digits.isEmpty then complain .hexEmpty (c.spanFrom first)
      else hexLiteral start ⟨first + 1, close⟩ (hexNumber digits) false c
    else
      let count := if letter = 'x' then 2 else if letter = 'u' then 4 else 8
      let (digits, c) ← readHexDigits count c
      hexLiteral start (c.spanFrom first) (hexNumber digits) (letter = 'x') c

def readPropertyName : Nat → Cursor → Except Complaint (List Char × Cursor)
  | 0, c => complain .escapeUnfinished c.point
  | fuel + 1, c =>
    match c.char? with
    | none => complain .escapeUnfinished c.point
    | some d =>
      if d = '\x7d' then .ok ([], c.next)
      else do
        let (more, c) ← readPropertyName fuel c.nextSkip
        pure (d :: more, c)

def readProperty (start : Nat) (c : Cursor) : Except Complaint (Node × Cursor) := do
  let c := c.nextSkip
  match c.char? with
  | none => complain .escapeUnfinished c.point
  | some d =>
    if d = '\x7b' then
      let (name, c) ← readPropertyName (c.rest.length + 1) c.nextSkip
      pure (.property (c.spanFrom start) (String.ofList name), c)
    else if d = '\\' then complain .propertyInvalid c.charSpan
    else
      let c := c.nextSkip
      pure (.property (c.spanFrom start) (String.ofList [d]), c)

def isAnchorLetter (c : Char) : Bool := c.isAlpha || c = '-'

def wordAnchor? (name : String) : Option Anchor :=
  match name with
  | "start" => some .wordStart
  | "end" => some .wordEnd
  | "start-half" => some .wordStartHalf
  | "end-half" => some .wordEndHalf
  | _ => none

/-- What stands in braces behind an anchor on words, if it is no count. The cursor is at the brace. -/
def readWordAnchor (start : Nat) (c : Cursor) : Except Complaint (Option (Anchor × Cursor)) :=
  let brace := c.offset
  let c := c.nextSkip
  match c.char? with
  | none => complain .wordAnchorUnfinished (c.spanFrom start)
  | some d =>
    if !isAnchorLetter d then .ok none
    else
      let first := c.offset
      let (name, c) := c.takeWhile isAnchorLetter
      if c.char? ≠ some '\x7d' then complain .wordAnchorUnclosed (c.spanFrom brace)
      else match wordAnchor? (String.ofList name) with
        | none => complain .wordAnchorUnrecognized (c.spanFrom first)
        | some a => .ok (some (a, c.next))

def controlLetter? (c : Char) : Option Char :=
  if c = 'a' then some '\x07'
  else if c = 'f' then some '\x0c'
  else if c = 't' then some '\t'
  else if c = 'n' then some '\n'
  else if c = 'r' then some '\r'
  else if c = 'v' then some '\x0b'
  else none

def letterClass? (c : Char) : Option (LetterClass × Bool) :=
  if c = 'd' then some (.digit, false)
  else if c = 'D' then some (.digit, true)
  else if c = 's' then some (.space, false)
  else if c = 'S' then some (.space, true)
  else if c = 'w' then some (.word, false)
  else if c = 'W' then some (.word, true)
  else none

def assertion? (c : Char) : Option Assertion :=
  if c = 'A' then some .textStart
  else if c = 'z' then some .textEnd
  else if c = 'B' then some (.word .noWordEdge)
  else if c = '<' then some (.word .wordStart)
  else if c = '>' then some (.word .wordEnd)
  else none

def readLetter (start : Nat) (d : Char) (c : Cursor) : Except Complaint (Node × Cursor) :=
  let span := c.spanFrom start
  if isEscapable d then .ok (.literal ⟨span, d, false⟩, c)
  else match controlLetter? d with
    | some char => .ok (.literal ⟨span, char, false⟩, c)
    | none =>
      match assertion? d with
      | some kind => .ok (.assertion span kind, c)
      | none =>
        if d ≠ 'b' then complain .escapeUnrecognized span
        else if c.char? ≠ some '\x7b' then .ok (.assertion span (.word .wordEdge), c)
        else match readWordAnchor start c with
          | .error complaint => .error complaint
          | .ok none => .ok (.assertion span (.word .wordEdge), c)
          | .ok (some (a, c)) => .ok (.assertion (c.spanFrom start) (.word a), c)

def readEscape (c : Cursor) : Except Complaint (Node × Cursor) :=
  let start := c.offset
  let c := c.next
  match c.char? with
  | none => complain .escapeUnfinished (c.spanFrom start)
  | some d =>
    if d.isDigit then complain .backreference (c.next.spanFrom start)
    else if d = 'x' || d = 'u' || d = 'U' then readHex start d c
    else if d = 'p' || d = 'P' then readProperty start c
    else match letterClass? d with
      | some (kind, negated) => .ok (.letter (c.next.spanFrom start) kind negated, c.next)
      | none => readLetter start d c.next

end CaptureProbe.Pattern
