import CaptureProbe.Log.Basic
import CaptureProbe.Pattern.Meaning
import CaptureProbe.Pattern.Search

/-!
Log filters: a list of directives, each a level for the origins whose path begins with a target, and
behind a slash a pattern that messages must contain. The longest target that fits an origin decides.
-/

namespace CaptureProbe.Log

/-- A directive lets records through up to a rank; zero lets none through. -/
structure Directive where
  target : Option String
  rank : Nat
  deriving DecidableEq, Repr

namespace Directive

def fits (d : Directive) (path : String) : Bool :=
  match d.target with
  | none => true
  | some target => target.toList.isPrefixOf path.toList

def targetSize (d : Directive) : Nat := (d.target.getD "").utf8ByteSize

end Directive

structure Filter where
  directives : List Directive
  pattern : Option Pattern := none
  deriving DecidableEq, Repr

namespace Filter

def everything : Nat := Level.trace.rank

def rank? (cs : List Char) : Option Nat :=
  let name := String.ofList (cs.map Char.toLower)
  if name = "off" then some 0
  else if name = "error" then some Level.error.rank
  else if name = "warn" then some Level.warn.rank
  else if name = "info" then some Level.info.rank
  else if name = "debug" then some Level.debug.rank
  else if name = "trace" then some Level.trace.rank
  else none

def trim (cs : List Char) : List Char :=
  ((cs.dropWhile Text.isSpace).reverse.dropWhile Text.isSpace).reverse

def splitAt (sep : Char) : List Char → List (List Char)
  | [] => [[]]
  | c :: rest =>
    if c = sep then [] :: splitAt sep rest
    else match splitAt sep rest with
      | [] => [[c]]
      | part :: parts => (c :: part) :: parts

inductive Flaw where
  | directive (text : List Char)
  | tooManySlashes (spec : List Char)
  | pattern (text : List Char) (refusal : Pattern.Refusal)
  deriving DecidableEq, Repr

def Flaw.warning (flaw : Flaw) : String :=
  let reason := match flaw with
    | .directive text => "invalid logging spec '" ++ String.ofList text ++ "'"
    | .tooManySlashes spec =>
      "invalid logging spec '" ++ String.ofList spec ++ "' (too many '/'s)"
    | .pattern text refusal => "invalid regex filter - " ++ refusal.message text
  "warning: " ++ reason ++ ", ignoring it\n"

/-- Reads a directive: a level for all origins, a target for all levels, or a target and its level. -/
def directive? (cs : List Char) : Except Flaw Directive :=
  match splitAt '=' cs with
  | [whole] =>
    match rank? whole with
    | some rank => .ok ⟨none, rank⟩
    | none => .ok ⟨some (String.ofList whole), everything⟩
  | [target, level] =>
    if trim level = [] then .ok ⟨some (String.ofList target), everything⟩
    else match rank? (trim level) with
      | some rank => .ok ⟨some (String.ofList target), rank⟩
      | none => .error (.directive (trim level))
  | _ => .error (.directive cs)

/-- Adds a directive; one for the same target takes the place of the earlier. -/
def insert (directives : List Directive) (d : Directive) : List Directive :=
  if directives.any (·.target == d.target) then
    directives.map fun old => if old.target == d.target then d else old
  else directives ++ [d]

def readDirectives (cs : List Char) : List (Except Flaw Directive) :=
  (((splitAt ',' cs).map trim).filter (· ≠ [])).map directive?

/-- A filter from what could be read. Without any directive, only errors are let through. -/
def ofDirectives (directives : List Directive) (pattern : Option Pattern) : Filter :=
  match directives.foldl insert [] with
  | [] => ⟨[⟨none, Level.error.rank⟩], pattern⟩
  | kept => ⟨kept, pattern⟩

def flawsOf (directives : List (Except Flaw Directive)) : List Flaw :=
  directives.filterMap fun
    | .ok _ => none
    | .error flaw => some flaw

def readSpec (spec : String) : Filter × List Flaw :=
  match splitAt '/' spec.toList with
  | [directives] =>
    let found := readDirectives directives
    (ofDirectives (found.filterMap Except.toOption) none, flawsOf found)
  | [directives, written] =>
    let found := readDirectives directives
    let usable := found.filterMap Except.toOption
    match Pattern.ofText written with
    | .ok pattern => (ofDirectives usable (some pattern), flawsOf found)
    | .error refusal => (ofDirectives usable none, flawsOf found ++ [.pattern written refusal])
  | _ => (ofDirectives [] none, [.tooManySlashes spec.toList])

def ofSpec (spec : String) : Filter := (readSpec spec).1

def warnings (spec : String) : String := String.join ((readSpec spec).2.map Flaw.warning)

/-- Whether a level is let through for an origin: by the longest fitting target, the later of two
equally long. -/
def admitsLevel (f : Filter) (r : Record) : Bool :=
  let sorted := f.directives.mergeSort fun a b => a.targetSize ≤ b.targetSize
  match sorted.reverse.find? (·.fits r.origin.path) with
  | some d => r.level.rank ≤ d.rank
  | none => false

def admits (f : Filter) (r : Record) : Bool :=
  f.admitsLevel r && f.pattern.all (·.occursIn r.message)

def lines (f : Filter) (records : List Record) : String :=
  String.join ((records.filter f.admits).map Record.line)

end Filter
end CaptureProbe.Log
