import CaptureProbe.Pattern.Brackets
import CaptureProbe.Text.Letters

/-!
Reading of written patterns: groups, alternatives, repetitions and what they are made of. The reader
goes once over the text and keeps the groups that are still open.
-/

namespace CaptureProbe.Pattern

structure Opening where
  span : Span
  captures : Bool := true
  flags : List FlagItem := []
  verbose : Bool

/-- What was read inside of a group: the current branch, last item first, and the branches before. -/
structure Level where
  start : Nat
  items : List Node := []
  first : Nat
  earlier : List Node := []

namespace Level

def begin (offset : Nat) : Level := { start := offset, first := offset }

def push (l : Level) (item : Node) : Level := { l with items := item :: l.items }

def branch (l : Level) (stop : Nat) : Node := Node.sequence ⟨l.start, stop⟩ l.items.reverse

def nextBranch (l : Level) (stop : Nat) : Level :=
  { l with start := stop + 1, items := [], earlier := l.branch stop :: l.earlier }

def finish (l : Level) (stop : Nat) : Node :=
  if l.earlier.isEmpty then l.branch stop
  else .alternation ⟨l.first, stop⟩ ((l.branch stop :: l.earlier).reverse)

def popRepeatable (l : Level) (c : Cursor) : Except Complaint (Node × Level) :=
  match l.items with
  | [] => complain .repetitionMissing c.point
  | item :: items =>
    if item.isRepeatable then .ok (item, { l with items := items })
    else complain .repetitionMissing c.point

def pushRepeated (l : Level) (item : Node) (least : Nat) (most : Option Nat) (lazy : Bool)
    (c : Cursor) : Level :=
  l.push (.repetition (c.spanFrom item.span.start) item least most lazy)

end Level

/-- A question mark behind an operator makes short matches the preferred ones. -/
def readPreference (c : Cursor) : Bool × Cursor :=
  if c.char? = some '?' then (true, c.next) else (false, c)

def readOperator (l : Level) (c : Cursor) (least : Nat) (most : Option Nat) :
    Except Complaint (Level × Cursor) := do
  let (item, l) ← l.popRepeatable c
  let (lazy, c) := readPreference c.next
  pure (l.pushRepeated item least most lazy c, c)

def countLimit : Nat := 4294967296

/-- A count, or what is wrong with it, and the cursor behind it. Blanks around it do not count. -/
def readCount (c : Cursor) : Except Complaint Nat × Cursor :=
  let c := c.dropSpaces
  let start := c.offset
  let (digits, c) := c.takeWhile Char.isDigit
  let span := c.spanFrom start
  let c := (c.takeWhile Text.isSpace).2
  let number := digits.foldl (fun total d => 10 * total + (d.toNat - '0'.toNat)) 0
  if digits.isEmpty then (complain .countEmpty span, c)
  else if countLimit ≤ number then (complain .decimalInvalid span, c)
  else (.ok number, c)

def readBounds (brace : Nat) (c : Cursor) : Except Complaint (Nat × Option Nat × Cursor) :=
  let (least, c) := readCount c
  match c.char? with
  | none => complain .countUnclosed (c.spanFrom brace)
  | some d =>
    if d ≠ ',' then do
      let least ← least
      pure (least, some least, c)
    else
      let c := c.nextSkip
      match c.char? with
      | none => complain .countUnclosed (c.spanFrom brace)
      | some d => do
        let least ← least
        if d = '\x7d' then pure (least, none, c)
        else
          let (most, c) := readCount c
          let most ← most
          pure (least, some most, c)

def readCounted (l : Level) (c : Cursor) : Except Complaint (Level × Cursor) := do
  let brace := c.offset
  let (item, l) ← l.popRepeatable c
  let c := c.nextSkip
  if c.atEnd then complain .countUnclosed (c.spanFrom brace)
  else
    let (least, most, c) ← readBounds brace c
    if c.char? ≠ some '\x7d' then complain .countUnclosed (c.spanFrom brace)
    else
      let (lazy, c) := readPreference c.nextSkip
      if most.any (· < least) then complain .countInvalid (c.spanFrom brace)
      else pure (l.pushRepeated item least most lazy c, c)

/-- Reads flags up to the character that ends them, at which the cursor is left. `minus` is the minus
sign that no flag has followed yet. -/
def readFlags (items : List FlagItem) (minus : Option Span) :
    Nat → Cursor → Except Complaint (List FlagItem × Cursor)
  | 0, c => complain .flagUnfinished c.point
  | fuel + 1, c =>
    match c.char? with
    | none => complain .flagUnfinished c.point
    | some d =>
      let span := c.charSpan
      if d = ':' || d = ')' then
        match minus with
        | some span => complain .flagDanglingNegation span
        | none => .ok (items, c)
      else if d = '-' then
        match items.find? (·.flag == none) with
        | some old => .error ⟨.flagRepeatedNegation, span, some old.span⟩
        | none => readFlags (items ++ [⟨span, none⟩]) (some span) fuel c.next
      else match Flag.ofLetter? d with
        | none => complain .flagUnrecognized span
        | some flag =>
          match items.find? (·.flag == some flag) with
          | some old => .error ⟨.flagDuplicate, span, some old.span⟩
          | none => readFlags (items ++ [⟨span, some flag⟩]) none fuel c.next

def isNameChar (first : Bool) (c : Char) : Bool :=
  c = '_' || Text.isLetter c
    || (!first && (Text.isNumeral c || c = '.' || c = '[' || c = ']'))

def readName (start : Nat) : Nat → Cursor → Except Complaint (List Char × Cursor)
  | 0, c => complain .groupNameUnfinished c.point
  | fuel + 1, c =>
    match c.char? with
    | none => complain .groupNameUnfinished c.point
    | some d =>
      if d = '>' then .ok ([], c.next)
      else if isNameChar (c.offset == start) d then do
        let (more, c) ← readName start fuel c.next
        pure (d :: more, c)
      else complain .groupNameInvalid c.charSpan

abbrev GroupNames := List (String × Span)

def readGroupName (names : GroupNames) (c : Cursor) : Except Complaint (GroupNames × Cursor) := do
  let start := c.offset
  let (chars, c) ← readName start (c.rest.length + 1) c
  let name := String.ofList chars
  let span : Span := ⟨start, start + chars.length⟩
  if chars.isEmpty then complain .groupNameEmpty span
  else match names.find? (·.1 == name) with
    | some old => .error ⟨.groupNameDuplicate, span, some old.2⟩
    | none => pure ((name, span) :: names, c)

inductive Front where
  | group (o : Opening)
  | flags (span : Span) (items : List FlagItem)

def lookAround? (c : Cursor) : Option Cursor :=
  (c.eat? "?=").or ((c.eat? "?!").or ((c.eat? "?<=").or (c.eat? "?<!")))

def readFlagFront (paren : Span) (question : Span) (c : Cursor) : Except Complaint (Front × Cursor) :=
  if c.atEnd then complain .groupUnclosed paren
  else do
    let (items, c) ← readFlags [] none (c.rest.length + 1) c
    let behind := c.next
    if c.char? = some ':' then
      pure (.group { span := paren, captures := false, flags := items, verbose := c.verbose }, behind)
    else if items.isEmpty then complain .repetitionMissing question
    else pure (.flags (behind.spanFrom paren.start) items, behind)

def readFront (names : GroupNames) (c : Cursor) : Except Complaint (Front × GroupNames × Cursor) :=
  let paren := c.charSpan
  let c := c.nextSkip
  match lookAround? c with
  | some behind => complain .lookAround (behind.spanFrom paren.start)
  | none =>
    match (c.eat? "?P<").or (c.eat? "?<") with
    | some inside => do
      let (names, c) ← readGroupName names inside
      pure (.group { span := paren, verbose := c.verbose }, names, c)
    | none =>
      match c.eat? "?" with
      | some inside => do
        let (front, c) ← readFlagFront paren c.point inside
        pure (front, names, c)
      | none => .ok (.group { span := paren, verbose := c.verbose }, names, c)

def setVerbose (c : Cursor) (items : List FlagItem) : Cursor :=
  { c with verbose := (flagSetting .verbose true items).getD c.verbose }

def readPrimitive (c : Cursor) (d : Char) : Except Complaint (Node × Cursor) :=
  if d = '\\' then readEscape c
  else if d = '.' then .ok (.dot c.charSpan, c.next)
  else if d = '^' then .ok (.assertion c.charSpan .start, c.next)
  else if d = '$' then .ok (.assertion c.charSpan .stop, c.next)
  else .ok (.literal ⟨c.charSpan, d, false⟩, c.next)

/-- How far a pattern was read: the cursor, the innermost group, the groups around it from the inside
out, and the names in use. -/
structure Progress where
  cursor : Cursor
  level : Level
  outer : List (Opening × Level) := []
  names : GroupNames := []

namespace Progress

def openGroup (p : Progress) : Except Complaint Progress := do
  let (front, names, c) ← readFront p.names p.cursor
  match front with
  | .group o =>
    pure ⟨setVerbose c o.flags, Level.begin c.offset, (o, p.level) :: p.outer, names⟩
  | .flags span items => pure ⟨setVerbose c items, p.level.push (.flags span items), p.outer, names⟩

def closeGroup (p : Progress) : Except Complaint Progress :=
  match p.outer with
  | [] => complain .groupUnopened p.cursor.charSpan
  | (o, around) :: outer =>
    let inner := p.level.finish p.cursor.offset
    let c := { p.cursor.next with verbose := o.verbose }
    .ok ⟨c, around.push (.group (c.spanFrom o.span.start) o.captures o.flags inner), outer, p.names⟩

def advance (p : Progress) (next : Level × Cursor) : Progress :=
  { p with level := next.1, cursor := next.2 }

def step (p : Progress) (d : Char) : Except Complaint Progress :=
  let c := p.cursor
  if d = '(' then p.openGroup
  else if d = ')' then p.closeGroup
  else if d = '|' then .ok { p with level := p.level.nextBranch c.offset, cursor := c.next }
  else if d = '[' then do
    let (set, c) ← readBrackets c
    pure (p.advance (p.level.push set, c))
  else if d = '?' then (readOperator p.level c 0 (some 1)).map p.advance
  else if d = '*' then (readOperator p.level c 0 none).map p.advance
  else if d = '+' then (readOperator p.level c 1 none).map p.advance
  else if d = '\x7b' then (readCounted p.level c).map p.advance
  else do
    let (item, c) ← readPrimitive c d
    pure (p.advance (p.level.push item, c))

def finish (p : Progress) : Except Complaint Node :=
  match p.outer with
  | [] => .ok (p.level.finish p.cursor.offset)
  | (o, _) :: _ => complain .groupUnclosed o.span

def readAll : Nat → Progress → Except Complaint Node
  | 0, p => p.finish
  | fuel + 1, p =>
    let p := { p with cursor := p.cursor.skip }
    match p.cursor.char? with
    | none => p.finish
    | some d => do
      let p ← p.step d
      p.readAll fuel

end Progress

def nestLimit : Nat := 250

def checkDepth (depth : Nat) (span : Span) : Except Complaint Unit :=
  if nestLimit ≤ depth then complain (.nestedTooDeep nestLimit) span else .ok ()

mutual

def SetNode.checkNesting (depth : Nat) : SetNode → Except Complaint Unit
  | .bracketed span _ inner => do
    checkDepth depth span
    inner.checkNesting (depth + 1)
  | .union span items => do
    checkDepth depth span
    SetNode.checkAll (depth + 1) items
  | .binary span _ left right => do
    checkDepth depth span
    left.checkNesting (depth + 1)
    right.checkNesting (depth + 1)
  | _ => .ok ()

def SetNode.checkAll (depth : Nat) : List SetNode → Except Complaint Unit
  | [] => .ok ()
  | item :: rest => do
    item.checkNesting depth
    SetNode.checkAll depth rest

end

mutual

def Node.checkNesting (depth : Nat) : Node → Except Complaint Unit
  | .bracketed span _ inner => do
    checkDepth depth span
    inner.checkNesting (depth + 1)
  | .repetition span item _ _ _ => do
    checkDepth depth span
    item.checkNesting (depth + 1)
  | .group span _ _ inner => do
    checkDepth depth span
    inner.checkNesting (depth + 1)
  | .alternation span branches => do
    checkDepth depth span
    Node.checkAll (depth + 1) branches
  | .concat span items => do
    checkDepth depth span
    Node.checkAll (depth + 1) items
  | _ => .ok ()

def Node.checkAll (depth : Nat) : List Node → Except Complaint Unit
  | [] => .ok ()
  | item :: rest => do
    item.checkNesting depth
    Node.checkAll depth rest

end

def read (text : List Char) : Except Complaint Node := do
  let node ← Progress.readAll (text.length + 1) { cursor := { rest := text }, level := Level.begin 0 }
  node.checkNesting 0
  pure node

end CaptureProbe.Pattern
