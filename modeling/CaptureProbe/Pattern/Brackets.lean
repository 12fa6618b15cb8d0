import CaptureProbe.Pattern.Escape

/-!
Sets of characters between brackets. Inside of brackets stand characters, ranges, classes and further
brackets; the operators on sets have one rank and group to the left.
-/

namespace CaptureProbe.Pattern

structure SetItems where
  span : Span
  items : List SetNode := []

namespace SetItems

def push (s : SetItems) (item : SetNode) : SetItems :=
  let start := if s.items.isEmpty then item.span.start else s.span.start
  ⟨⟨start, item.span.stop⟩, item :: s.items⟩

def toNode (s : SetItems) : SetNode :=
  match s.items with
  | [] => .empty s.span
  | [item] => item
  | items => .union s.span items.reverse

end SetItems

/-- An open bracket: what stands before it in the brackets around, and the stretch of its front. -/
structure OpenSet where
  around : SetItems
  span : Span
  negated : Bool
  pending : Option (SetOp × SetNode) := none

namespace OpenSet

def operand (o : OpenSet) (items : SetItems) : SetNode :=
  match o.pending with
  | none => items.toNode
  | some (op, left) =>
    let right := items.toNode
    .binary ⟨left.span.start, right.span.stop⟩ op left right

end OpenSet

def readMinuses (start : Nat) : Nat → Cursor → SetItems → Except Complaint (SetItems × Cursor)
  | 0, _, _ => complain .classUnclosed ⟨start, start⟩
  | fuel + 1, c, items =>
    match c.char? with
    | none => complain .classUnclosed ⟨start, start⟩
    | some d =>
      if d = '-' then readMinuses start fuel c.nextSkip (items.push (.literal ⟨c.charSpan, '-', false⟩))
      else .ok (items, c)

def readOpening (around : SetItems) (c : Cursor) :
    Except Complaint (OpenSet × SetItems × Cursor) := do
  let start := c.offset
  let c := c.nextSkip
  let negated := c.char? == some '^'
  let c := if negated then c.nextSkip else c
  if c.atEnd then complain .classUnclosed (c.spanFrom start)
  else
    let (items, c) ← readMinuses start (c.rest.length + 1) c ⟨c.point, []⟩
    if items.items.isEmpty && c.char? = some ']' then
      let items := items.push (.literal ⟨c.charSpan, ']', false⟩)
      let c := c.nextSkip
      if c.atEnd then complain .classUnclosed (c.spanFrom start)
      else pure ({ around := around, span := c.spanFrom start, negated := negated }, items, c)
    else pure ({ around := around, span := c.spanFrom start, negated := negated }, items, c)

/-- A class by its name. The cursor is at the bracket; where no class is written it stays there. -/
def readNamed? (c : Cursor) : Option (SetNode × Cursor) :=
  match c.eat? "[:" with
  | none => none
  | some inside =>
    let negated := inside.char? == some '^'
    let inside := if negated then inside.next else inside
    let name := inside.rest.takeWhile (· ≠ ':')
    match (inside.advance name.length).eat? ":]" with
    | none => none
    | some behind =>
      (NamedClass.ofName? (String.ofList name)).map fun kind =>
        (.named (behind.spanFrom c.offset) kind negated, behind)

def readSetItem (c : Cursor) (d : Char) : Except Complaint (Node × Cursor) :=
  if d = '\\' then readEscape c else .ok (.literal ⟨c.charSpan, d, false⟩, c.next)

def setNode (item : Node) : Except Complaint SetNode :=
  match item with
  | .literal l => .ok (.literal l)
  | .letter span kind negated => .ok (.letter span kind negated)
  | .property span name => .ok (.property span name)
  | _ => complain .classEscapeInvalid item.span

def rangeEnd (item : Node) : Except Complaint Literal :=
  match item with
  | .literal l => .ok l
  | _ => complain .classRangeLiteral item.span

/-- A single item or a range. `front` is the stretch to blame for brackets that do not close. -/
def readRange (front : Span) (c : Cursor) (d : Char) : Except Complaint (SetNode × Cursor) := do
  let (item, c) ← readSetItem c d
  let c := c.skip
  if c.atEnd then complain .classUnclosed front
  else if c.char? ≠ some '-' || c.peekSkip? = some ']' || c.peekSkip? = some '-' then
    pure (← setNode item, c)
  else
    let c := c.nextSkip
    match c.char? with
    | none => complain .classUnclosed front
    | some d =>
      let (second, c) ← readSetItem c d
      let span : Span := ⟨item.span.start, second.span.stop⟩
      let first ← rangeEnd item
      let last ← rangeEnd second
      if last.char < first.char then complain .classRangeInvalid span
      else pure (.range span first last, c)

def setOp? (c : Cursor) : Option SetOp :=
  if c.char? ≠ c.peek? then none
  else if c.char? = some '&' then some .intersection
  else if c.char? = some '-' then some .difference
  else if c.char? = some '~' then some .symmetricDifference
  else none

/-- Reads on to the end of the outermost brackets. The innermost open ones are `o`; every round takes
at least a character. -/
def readSet : Nat → Cursor → OpenSet → List OpenSet → SetItems → Except Complaint (Node × Cursor)
  | 0, _, o, _, _ => complain .classUnclosed o.span
  | fuel + 1, c, o, outer, items =>
    let c := c.skip
    match c.char? with
    | none => complain .classUnclosed o.span
    | some d =>
      if d = '[' then
        match readNamed? c with
        | some (named, c) => readSet fuel c o outer (items.push named)
        | none => do
          let (inner, items, c) ← readOpening items c
          readSet fuel c inner (o :: outer) items
      else if d = ']' then
        let c := c.next
        let span := c.spanFrom o.span.start
        match outer with
        | [] => .ok (.bracketed span o.negated (o.operand items), c)
        | parent :: outer =>
          readSet fuel c parent outer (o.around.push (.bracketed span o.negated (o.operand items)))
      else match setOp? c with
        | some op =>
          let c := c.advance 2
          readSet fuel c { o with pending := some (op, o.operand items) } outer ⟨c.point, []⟩
        | none => do
          let (item, c) ← readRange o.span c d
          readSet fuel c o outer (items.push item)

def readBrackets (c : Cursor) : Except Complaint (Node × Cursor) := do
  let (o, items, inside) ← readOpening ⟨c.point, []⟩ c
  readSet (c.rest.length + 1) inside o [] items

end CaptureProbe.Pattern
