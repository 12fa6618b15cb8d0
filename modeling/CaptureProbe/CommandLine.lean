import CaptureProbe.Options.Description
import CaptureProbe.Options.Help
import CaptureProbe.Options.Layers
import CaptureProbe.Run

/-!
The command line: from arguments and environment to what a whole execution leaves behind, namely an
exit code, the two output streams and the files.
-/

namespace CaptureProbe.CommandLine

structure Invocation where
  arguments : List (List UInt8)
  flags : Option String := none
  filter : Option String := none
  output : Sink := {}
  directory : Directory := {}

structure Ending where
  code : Nat
  output : List UInt8
  errors : List UInt8
  directory : Directory

/-- The arguments as texts, or the first that is none with its position, counted from one. -/
def decodeFrom (position : Nat) : List (List UInt8) → Except (Nat × List UInt8) (List String)
  | [] => .ok []
  | bytes :: rest =>
    match Text.ofBytes? bytes with
    | some text => (decodeFrom (position + 1) rest).map (text :: ·)
    | none => .error (position, bytes)

def decodeArguments (arguments : List (List UInt8)) : Except (Nat × List UInt8) (List String) :=
  decodeFrom 1 arguments

def undecodableMessage (position : Nat) (bytes : List UInt8) : String :=
  "Argument " ++ Nat.repr position ++ " is not valid Unicode: " ++ Text.quotedBytes bytes ++ "\n"

/-- Ends without a run: requests are answered on the output, errors are reported. -/
def refuse (i : Invocation) (screen : Screen) (refusal : Options.Refusal) : Ending :=
  if refusal.isRequest then
    ⟨0, (i.output.print [refusal.report]).2.written, screen.shown, i.directory⟩
  else ⟨2, i.output.written, (screen.print refusal.report).shown, i.directory⟩

def optionsRecord (o : Options) : Log.Record :=
  ⟨.info, .command, "Probe options: " ++ o.describe⟩

def showFailure (screen : Screen) (message : String) : Screen :=
  (screen.note [⟨.error, .command, message⟩]).print ("probe: " ++ message ++ "\n")

/-- Reads flags and arguments, the flags of the environment first: the options for a run and the screen
so far, or an ending without a run. -/
def prepare (i : Invocation) : Except Ending (Screen × Options) :=
  let (environment, records) :=
    Options.applyEnvironment (Options.environmentArguments i.flags) Options.default
  let screen := (Screen.ofSpec i.filter).note records
  match decodeArguments i.arguments with
  | .error (position, bytes) =>
    .error ⟨2, i.output.written, (screen.print (undecodableMessage position bytes)).shown,
      i.directory⟩
  | .ok arguments =>
    match Options.applyCommandLine arguments environment with
    | .error refusal => .error (refuse i screen refusal)
    | .ok o => .ok (screen.note [optionsRecord o], o)

def runWith (i : Invocation) (screen : Screen) (o : Options) : Ending :=
  match Run.execute o i.output i.directory screen with
  | (.ok (), r) => ⟨0, r.context.sink.written, r.screen.shown, r.directory⟩
  | (.error fault, r) =>
    ⟨1, r.context.sink.written, (showFailure r.screen fault.message).shown, r.directory⟩

def execute (i : Invocation) : Ending :=
  match prepare i with
  | .error ending => ending
  | .ok (screen, o) => runWith i screen o

end CaptureProbe.CommandLine
