import CaptureProbe.Text.Plain

/-!
Log records: a level, the part of the program that wrote the record, and a message.
-/

namespace CaptureProbe.Log

inductive Level where
  | error
  | warn
  | info
  | debug
  | trace
  deriving DecidableEq, Repr

namespace Level

/-- How talkative a level is: a filter at a rank lets through all levels up to it. -/
def rank : Level → Nat
  | .error => 1
  | .warn => 2
  | .info => 3
  | .debug => 4
  | .trace => 5

def display : Level → String
  | .error => "ERROR"
  | .warn => "WARN"
  | .info => "INFO"
  | .debug => "DEBUG"
  | .trace => "TRACE"

end Level

inductive Origin where
  | calls
  | closures
  | program
  | options
  | dumps
  | command
  deriving DecidableEq, Repr

def Origin.path : Origin → String
  | .calls => "closure_probe::runtime"
  | .closures => "closure_probe::runtime::closure"
  | .program => "closure_probe::driver"
  | .options => "closure_probe::util::options"
  | .dumps => "closure_probe::util::results_dumper"
  | .command => "probe"

structure Record where
  level : Level
  origin : Origin
  message : String
  deriving DecidableEq, Repr

/-- A message with its further lines moved in by four columns. -/
def indented (message : String) : String :=
  String.ofList (message.toList.flatMap fun c => if c = '\n' then "\n    ".toList else [c])

def Record.line (r : Record) : String :=
  let level := r.level.display
  let padding := String.ofList (List.replicate (5 - level.length) ' ')
  Text.plain
    ("[" ++ level ++ padding ++ " " ++ r.origin.path ++ "] " ++ indented r.message ++ "\n")

end CaptureProbe.Log
