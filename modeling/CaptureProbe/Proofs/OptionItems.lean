import Mathlib.Tactic.SplitIfs
import CaptureProbe.Options.Layers
import CaptureProbe.Proofs.ArgumentForms

/-!
The grammar of option lists. A list of arguments is cut into items, each of which stands on its own:
no item repeats a switch, and the options that the list gives are read off the items.
-/

namespace CaptureProbe.Options

def modeNames : List String := ["strict", "sloppy", "script", "module"]

inductive Item where
  | flag (f : Flag)
  | assigned (s : Setting) (value : String)
  | spaced (s : Setting) (value : String)
  | positional (text : String)
  deriving DecidableEq

namespace Item

def tokens : Item → List String
  | .flag f => ["--" ++ f.name]
  | .assigned s value => ["--" ++ s.name ++ "=" ++ value]
  | .spaced s value => ["--" ++ s.name, value]
  | .positional text => [text]

/-- Only behind an equals sign, or as the value to capture, may any text stand. -/
def Placed : Item → Prop
  | .spaced s value => s = .capture ∨ IsPlain value
  | .positional text => IsPlain text
  | _ => True

def switch? : Item → Option Switch
  | .flag f => some (.flag f)
  | .assigned s _ => some (.setting s)
  | .spaced s _ => some (.setting s)
  | .positional _ => none

def valueOf? (s : Setting) : Item → Option String
  | .assigned t value => if t = s then some value else none
  | .spaced t value => if t = s then some value else none
  | _ => none

def ModeExists (item : Item) : Prop := ∀ value, item.valueOf? .mode = some value → value ∈ modeNames

def positional? : Item → Option String
  | .positional text => some text
  | _ => none

def occurrence? : Item → Option Occurrence
  | .flag f => some (.flag f)
  | .assigned s value => some (.setting s (some value))
  | .spaced s value => some (.setting s (some value))
  | .positional _ => none

end Item

/-- A list of tokens is cut into items, each in its place, without repeated switches and with modes
that exist. -/
structure Spells (items : List Item) (tokens : List String) : Prop where
  whole : items.flatMap Item.tokens = tokens
  placed : ∀ item ∈ items, item.Placed
  once : (items.filterMap Item.switch?).Nodup
  modes : ∀ item ∈ items, item.ModeExists

def configured (items : List Item) (trailing : List String) (o : Options) : Options :=
  let value? (s : Setting) := items.findSome? (Item.valueOf? s)
  let given := items.filterMap Item.positional? ++ trailing
  { mode := ((value? .mode).bind Mode.read?).getD o.mode
    capture := ((value? .capture).map Value.ofLiteral).getD o.capture
    closureArgs := if given = [] then o.closureArgs else given.map Value.ofLiteral
    factoryOnly := o.factoryOnly || decide (.flag .factoryOnly ∈ items)
    dumpStats := o.dumpStats || decide (.flag .dumpStats ∈ items)
    traceOutput := (value? .dumpTrace).or o.traceOutput
    callGraphOutput := (value? .dumpCallGraph).or o.callGraphOutput }

theorem read?_isSome_iff (text : String) :
    (Mode.read? text).isSome = true ↔ text ∈ modeNames := by
  simp only [Mode.read?, modeNames, List.mem_cons, List.not_mem_nil, or_false]
  split_ifs with strict sloppy module
  · simp [strict]
  · simpa [strict, or_assoc] using Or.inl sloppy
  · simp [module]
  · simp_all

end CaptureProbe.Options
