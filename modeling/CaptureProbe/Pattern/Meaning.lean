import CaptureProbe.Pattern.Automaton
import CaptureProbe.Pattern.Compose
import CaptureProbe.Pattern.Reader
import CaptureProbe.Pattern.WordList

/-!
The meaning of written patterns under flags. Without tables for the scripts of the world there is no
meaning for letter classes, properties and letter case unless scripts are turned off; then everything
is about ASCII characters, and what could match part of a character is refused.
-/

namespace CaptureProbe.Pattern

structure Flags where
  caseless : Bool := false
  multiLine : Bool := false
  dotAll : Bool := false
  lazy : Bool := false
  scripts : Bool := true
  carriageReturns : Bool := false
  deriving DecidableEq, Repr

def Flags.set (f : Flags) (items : List FlagItem) : Flags :=
  { caseless := (flagSetting .caseless true items).getD f.caseless
    multiLine := (flagSetting .multiLine true items).getD f.multiLine
    dotAll := (flagSetting .dotAll true items).getD f.dotAll
    lazy := (flagSetting .lazy true items).getD f.lazy
    scripts := (flagSetting .scripts true items).getD f.scripts
    carriageReturns := (flagSetting .carriageReturns true items).getD f.carriageReturns }

def NamedClass.set : NamedClass → CharSet
  | .alnum => CharSet.digits.union .letters
  | .alpha => .letters
  | .ascii => .interval '\x00' '\x7f'
  | .blank => (CharSet.single '\t').union (.single ' ')
  | .cntrl => (CharSet.interval '\x00' '\x1f').union (.single '\x7f')
  | .digit => .digits
  | .graph => .interval '!' '~'
  | .lower => .lowerLetters
  | .print => .interval ' ' '~'
  | .punct => (CharSet.interval '!' '~').minus (CharSet.digits.union .letters)
  | .space => .spaces
  | .upper => .upperLetters
  | .word => .word
  | .xdigit => CharSet.digits.union ((CharSet.interval 'A' 'F').union (.interval 'a' 'f'))

def LetterClass.set : LetterClass → CharSet
  | .digit => .digits
  | .space => .spaces
  | .word => .word

/-- A name of a property as names are compared: without an `is` at the very front, blanks, signs and
case. -/
def plainName (name : String) : String :=
  let cs := name.toList.map Char.toLower
  let cs := if "is".toList.isPrefixOf cs then cs.drop 2 else cs
  String.ofList (cs.filter fun c => c < '\x80' && c ≠ ' ' && c ≠ '_' && c ≠ '-')

/-- Why no property is known: the name itself, or for abbreviations that name only a value, the
value. -/
def propertyCause (f : Flags) (name : String) : Cause :=
  if !f.scripts then .scriptsNotAllowed
  else if ["cf", "sc", "lc"].contains (plainName name) then .propertyValueUnknown
  else .propertyUnknown

def foldSet (f : Flags) (span : Span) (holdsAny : Bool) (s : CharSet) : Except Complaint CharSet :=
  if !f.caseless then .ok s
  else if !f.scripts then .ok s.anyCase
  else if holdsAny then complain .noCaseTable span
  else .ok s

def closeSet (f : Flags) (span : Span) (negated holdsAny : Bool) (s : CharSet) :
    Except Complaint CharSet := do
  let folded ← foldSet f span holdsAny s
  let closed := if negated then folded.compl else folded
  if !f.scripts && !closed.isAscii then complain .invalidBytes span else pure closed

def literalChar (f : Flags) (l : Literal) : Except Complaint Char :=
  if !f.scripts && l.byte && '\x7f' < l.char then complain .invalidBytes l.span else .ok l.char

def setChar (f : Flags) (l : Literal) : Except Complaint Char := do
  let c ← literalChar f l
  if !f.scripts && '\x7f' < c then complain .scriptsNotAllowed l.span else pure c

def letterSet (f : Flags) (span : Span) (kind : LetterClass) (negated : Bool) :
    Except Complaint CharSet :=
  if f.scripts then complain .noLetterClassTable span
  else if negated then complain .invalidBytes span
  else .ok kind.set

def SetOp.apply (op : SetOp) (a b : CharSet) : CharSet :=
  match op with
  | .intersection => a.inter b
  | .difference => a.minus b
  | .symmetricDifference => a.symmDiff b

mutual

def SetNode.meaning (f : Flags) : SetNode → Except Complaint CharSet
  | .empty _ => .ok .none
  | .literal l => (setChar f l).map .single
  | .range _ first last => do
    let first ← setChar f first
    let last ← setChar f last
    pure (.interval first last)
  | .named span kind negated => closeSet f span negated true kind.set
  | .letter span kind negated => letterSet f span kind negated
  | .property span name => complain (propertyCause f name) span
  | .bracketed span negated inner => do
    closeSet f span negated inner.holdsAny (← inner.meaning f)
  | .union _ items => SetNode.meaningAll f items
  | .binary _ op left right => do
    let a ← left.meaning f
    let b ← right.meaning f
    let b ← foldSet f right.span right.holdsAny b
    let a ← foldSet f left.span left.holdsAny a
    pure (op.apply a b)

def SetNode.meaningAll (f : Flags) : List SetNode → Except Complaint CharSet
  | [] => .ok .none
  | item :: rest => do
    let a ← item.meaning f
    let b ← SetNode.meaningAll f rest
    pure (b.union a)

end

def literalMeaning (f : Flags) (l : Literal) : Except Complaint Pattern := do
  let c ← literalChar f l
  if !f.caseless then pure (.literal [c])
  else if f.scripts then complain .noCaseTable l.span
  else pure (oneOf (CharSet.single c).anyCase true)

def dotMeaning (f : Flags) (span : Span) : Except Complaint Pattern :=
  if !f.scripts then complain .invalidBytes span
  else
    let left : CharSet := if f.dotAll then .none
      else if f.carriageReturns then (CharSet.single '\r').union (.single '\n')
      else .single '\n'
    .ok (oneOf left.compl false)

def assertionMeaning (f : Flags) : Assertion → Pattern
  | .start =>
    .anchor (if !f.multiLine then .textStart
      else if f.carriageReturns then .lineStartAny else .lineStart)
  | .stop =>
    .anchor (if !f.multiLine then .textEnd else if f.carriageReturns then .lineEndAny else .lineEnd)
  | .textStart => .anchor .textStart
  | .textEnd => .anchor .textEnd
  | .word a => if f.scripts then .scriptAnchor a else .anchor a

mutual

def Node.meaning (f : Flags) : Node → Except Complaint (Pattern × Flags)
  | .empty _ => .ok (.empty, f)
  | .flags _ items => .ok (.empty, f.set items)
  | .literal l => (literalMeaning f l).map (·, f)
  | .dot span => (dotMeaning f span).map (·, f)
  | .assertion _ kind => .ok (assertionMeaning f kind, f)
  | .letter span kind negated => do
    let s ← letterSet f span kind negated
    pure (oneOf s true, f)
  | .property span name => complain (propertyCause f name) span
  | .bracketed span negated inner => do
    let s ← inner.meaning f
    let s ← closeSet f span negated inner.holdsAny s
    pure (oneOf s !f.scripts, f)
  | .repetition _ item least most lazy => do
    let (p, f) ← item.meaning f
    pure (repeatOf p least most (lazy == f.lazy), f)
  | .group span captures items inner => do
    let (p, _) ← inner.meaning (f.set items)
    pure (if captures then .capture span.start p else p, f)
  | .alternation _ branches => do
    let (ps, f) ← Node.meaningAll f branches
    pure (choiceOf ps, f)
  | .concat _ items => do
    let (ps, f) ← Node.meaningAll f items
    pure (sequenceOf ps, f)

def Node.meaningAll (f : Flags) : List Node → Except Complaint (List Pattern × Flags)
  | [] => .ok ([], f)
  | item :: rest => do
    let (p, f) ← item.meaning f
    let (ps, f) ← Node.meaningAll f rest
    pure (p :: ps, f)

end

inductive Refusal where
  | malformed (complaint : Complaint)
  | wordsOfScripts
  | tooLarge
  deriving DecidableEq, Repr

def Refusal.message (text : List Char) : Refusal → String
  | .malformed complaint => complaint.report text
  | .wordsOfScripts => "error building NFA"
  | .tooLarge => "Compiled regex exceeds size limit of " ++ Nat.repr Size.limit ++ " bytes."

def check (p : Pattern) : Except Refusal Unit :=
  if p.isWordList then .ok ()
  else if !p.forwardSize.fits then .error .tooLarge
  else if p.needsScripts then .error .wordsOfScripts
  else if !p.backwardSize.fits then .error .tooLarge
  else .ok ()

def ofText (text : List Char) : Except Refusal Pattern :=
  match (read text).bind fun node => node.meaning {} with
  | .error complaint => .error (.malformed complaint)
  | .ok (p, _) => (check p).map fun () => p

end CaptureProbe.Pattern
