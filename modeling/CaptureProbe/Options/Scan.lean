import CaptureProbe.Options.Basic
import CaptureProbe.Options.Refusal
import CaptureProbe.Value.Literal

/-!
Reading a list of arguments from left to right. An option without an equals sign waits for its
value; what waits is settled, and its value checked, when the next option or positional argument
comes or the list ends. Only then are missing values and repetitions looked for.
-/

namespace CaptureProbe.Options

inductive Occurrence where
  | setting (s : Setting) (value : Option String)
  | flag (f : Flag)
  deriving DecidableEq, Repr

namespace Occurrence

def switch : Occurrence → Switch
  | .setting s _ => .setting s
  | .flag f => .flag f

def valueOf? (s : Setting) : Occurrence → Option String
  | .setting t value => if t = s then value else none
  | .flag _ => none

end Occurrence

structure Scan where
  /-- The option that came last, with the value it got so far. -/
  pending : Option (Setting × Option String) := none
  found : List Occurrence := []
  positionals : List String := []
  deriving DecidableEq, Repr

namespace Scan

def check (s : Setting) (value : Option String) : Except Refusal Unit :=
  match s, value with
  | .mode, some text => if (Mode.read? text).isSome then .ok () else .error (.invalidMode text)
  | _, _ => .ok ()

def count (scan : Scan) (occurrence : Occurrence) : Scan :=
  { scan with found := scan.found ++ [occurrence] }

def settle (scan : Scan) : Except Refusal Scan :=
  match scan.pending with
  | none => .ok scan
  | some (s, value) =>
    match check s value with
    | .ok () => .ok ({ scan with pending := none }.count (.setting s value))
    | .error refusal => .error refusal

/-- A plain argument goes to the option that waits, or else is positional. -/
def takePlain (scan : Scan) (text : String) : Except Refusal Scan :=
  match scan.pending with
  | some (s, none) => .ok { scan with pending := some (s, some text) }
  | _ => scan.settle.map fun scan => { scan with positionals := scan.positionals ++ [text] }

def takeArgument (scan : Scan) : Argument → Except Refusal Scan
  | .assigned s value =>
    match scan.settle with
    | .ok scan => (check s (some value)).map fun () => scan.count (.setting s (some value))
    | .error refusal => .error refusal
  | .named s => scan.settle.map fun scan => { scan with pending := some (s, none) }
  | .flag f => scan.settle.map fun scan => scan.count (.flag f)
  | .help long =>
    match scan.settle with
    | .ok _ => .error (.help long)
    | .error refusal => .error refusal
  | .version =>
    match scan.settle with
    | .ok _ => .error .version
    | .error refusal => .error refusal
  | .surplus name value => .error (.surplus name value)
  | .unknown text => .error (.unknown text)
  | .plain text => scan.takePlain text

/-- Takes one argument. The value to capture may look like anything. -/
def take (scan : Scan) (token : String) : Except Refusal Scan :=
  match scan.pending with
  | some (.capture, none) => .ok { scan with pending := some (.capture, some token) }
  | _ => scan.takeArgument (Argument.classify token)

def takeAll (scan : Scan) : List String → Except Refusal Scan
  | [] => .ok scan
  | token :: rest =>
    match scan.take token with
    | .ok scan => scan.takeAll rest
    | .error refusal => .error refusal

def value? (scan : Scan) (s : Setting) : Option String :=
  scan.found.findSome? (Occurrence.valueOf? s)

def fault? (scan : Scan) (occurrence : Occurrence) : Option Refusal :=
  let repetition := if 1 < (scan.found.filter (·.switch == occurrence.switch)).length then
      some (.repeated occurrence.switch) else none
  match occurrence with
  | .setting s _ => if (scan.value? s).isNone then some (.missingValue s) else repetition
  | .flag _ => repetition

def waiting? (before after : Scan) : Option Refusal :=
  match before.pending with
  | some (s, none) => if (after.value? s).isNone then some (.missingValue s) else none
  | _ => none

/-- Ends the list. An option that still waits is reported before all others, and these in the order of
their first appearance. -/
def finish (scan : Scan) : Except Refusal Scan :=
  match scan.settle with
  | .error refusal => .error refusal
  | .ok settled =>
    match (waiting? scan settled).or (settled.found.findSome? settled.fault?) with
    | some refusal => .error refusal
    | none => .ok settled

def patch (scan : Scan) (trailing : List String) : Patch where
  mode := (scan.value? .mode).bind Mode.read?
  capture := (scan.value? .capture).map Value.ofLiteral
  closureArgs := (scan.positionals ++ trailing).map Value.ofLiteral
  factoryOnly := scan.found.contains (.flag .factoryOnly)
  dumpStats := scan.found.contains (.flag .dumpStats)
  traceOutput := scan.value? .dumpTrace
  callGraphOutput := scan.value? .dumpCallGraph

end Scan

def separator : String := "--"

def parse (arguments : List String) : Except Refusal Patch :=
  let own := arguments.takeWhile (· ≠ separator)
  let trailing := (arguments.dropWhile (· ≠ separator)).drop 1
  match ({} : Scan).takeAll own with
  | .error refusal => .error refusal
  | .ok scan => scan.finish.map fun complete => complete.patch trailing

end CaptureProbe.Options
