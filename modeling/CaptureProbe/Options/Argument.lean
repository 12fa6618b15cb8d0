import CaptureProbe.Number.Numeral

/-!
Single arguments, before their place in the list gives them a meaning: what each looks like on its
own.
-/

namespace CaptureProbe.Options

inductive Setting where
  | mode
  | capture
  | dumpTrace
  | dumpCallGraph
  deriving DecidableEq, Repr

inductive Flag where
  | factoryOnly
  | dumpStats
  deriving DecidableEq, Repr

def Setting.name : Setting → String
  | .mode => "mode"
  | .capture => "capture"
  | .dumpTrace => "dump-trace"
  | .dumpCallGraph => "dump-call-graph"

def Setting.all : List Setting := [.mode, .capture, .dumpTrace, .dumpCallGraph]

def Flag.name : Flag → String
  | .factoryOnly => "factory-only"
  | .dumpStats => "dump-stats"

def Flag.all : List Flag := [.factoryOnly, .dumpStats]

def Setting.usage : Setting → String
  | .mode => "--mode <mode>"
  | .capture => "--capture <capture>"
  | .dumpTrace => "--dump-trace <trace-output>"
  | .dumpCallGraph => "--dump-call-graph <call-graph-output>"

def Flag.usage (f : Flag) : String := "--" ++ f.name

inductive Argument where
  | assigned (setting : Setting) (value : String)
  | named (setting : Setting)
  | flag (flag : Flag)
  | help (long : Bool)
  | version
  | surplus (name value : String)
  | unknown (text : String)
  | plain (text : String)
  deriving DecidableEq, Repr

namespace Argument

def ofName (name : String) : Argument :=
  match Setting.all.find? (·.name == name), Flag.all.find? (·.name == name) with
  | some s, _ => .named s
  | none, some f => .flag f
  | none, none =>
    if name = "help" then .help true
    else if name = "version" then .version
    else .unknown ("--" ++ name)

def assign (name value : String) : Argument → Argument
  | .named s => .assigned s value
  | .unknown text => .unknown text
  | _ => .surplus name value

def ofLong (cs : List Char) : Argument :=
  let name := String.ofList (cs.takeWhile (· ≠ '='))
  match cs.dropWhile (· ≠ '=') with
  | [] => ofName name
  | _ :: value => assign name (String.ofList value) (ofName name)

/-- The text after a single dash. What reads as a numeral is a negative number, not an option. -/
def ofShort (c : Char) (rest : List Char) : Argument :=
  if (Numeral.read? (c :: rest)).isSome then .plain (String.ofList ('-' :: c :: rest))
  else if c = 'h' then .help false
  else if c = 'V' then .version
  else .unknown (String.ofList ['-', c])

/-- Classifies an argument by its look. A lone dash is a plain value. -/
def classify (token : String) : Argument :=
  match token.toList with
  | '-' :: '-' :: rest => ofLong rest
  | '-' :: c :: rest => ofShort c rest
  | _ => .plain token

end Argument
end CaptureProbe.Options
