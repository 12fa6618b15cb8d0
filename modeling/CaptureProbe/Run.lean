import CaptureProbe.CallGraph.Dot
import CaptureProbe.Directory
import CaptureProbe.Log.Screen
import CaptureProbe.Options.Basic
import CaptureProbe.Program
import CaptureProbe.Statistics

/-!
A run: the probe program under given options, a flush of its output, and then the artifacts that the
options ask for. Nothing is published unless all output was written, and the first artifact that
cannot be published is the last one tried.
-/

namespace CaptureProbe

inductive Artifact where
  | trace (path : String)
  | callGraph (path : String)
  | statistics
  deriving DecidableEq, Repr

/-- The artifacts that options ask for, in the order in which they are published. -/
def Options.artifacts (o : Options) : List Artifact :=
  (o.traceOutput.map .trace).toList ++ (o.callGraphOutput.map .callGraph).toList
    ++ (if o.dumpStats then [.statistics] else [])

def Artifact.records : Artifact → List Log.Record
  | .trace _ => [⟨.info, .dumps, "Dumping observation trace..."⟩]
  | .callGraph _ => [⟨.info, .dumps, "Dumping call graph..."⟩]
  | .statistics => []

inductive RunFault where
  | output (fault : Fault)
  | flush (fault : Fault)
  | traceDump (path : String) (fault : Fault)
  | callGraphDump (path : String) (fault : Fault)
  | statistics (fault : Fault)
  deriving DecidableEq, Repr

namespace RunFault

def cause : RunFault → Fault
  | .output fault => fault
  | .flush fault => fault
  | .traceDump _ fault => fault
  | .callGraphDump _ fault => fault
  | .statistics fault => fault

def situation : RunFault → String
  | .output _ => "Failed to write to the output stream"
  | .flush _ => "Failed to flush the output stream"
  | .traceDump path _ => "Failed to write trace output " ++ path
  | .callGraphDump path _ => "Failed to write dot file output " ++ path
  | .statistics _ => "Failed to write statistics"

def message (f : RunFault) : String := f.situation ++ ": " ++ f.cause.message

end RunFault

structure Run where
  context : Context
  directory : Directory
  screen : Screen

namespace Run

def writeDevice (r : Run) (text : String) : Device → Except Fault Unit × Run
  | .null => (.ok (), r)
  | .full => (if text = "" then .ok () else .error .noSpace, r)
  | .terminal => (.error .noDevice, r)
  | .output =>
    match r.context.sink.print [text] with
    | (result, sink) => (result, { r with context := { r.context with sink := sink } })
  | .errors =>
    match r.screen.sink.print [text] with
    | (result, sink) => (result, { r with screen := { r.screen with sink := sink } })

def write (r : Run) (path text : String) : Except Fault Unit × Run :=
  match r.directory.locate path with
  | .error fault => (.error fault, r)
  | .ok place =>
    match r.directory.device? place with
    | some device => r.writeDevice text device
    | none => (.ok (), { r with directory := r.directory.put place text })

def dump (r : Run) (path text : String) (failure : Fault → RunFault) :
    Except RunFault Unit × Run :=
  match r.write path text with
  | (.ok (), r) => (.ok (), r)
  | (.error fault, r) => (.error (failure fault), r)

def showStatistics (r : Run) : Except RunFault Unit × Run :=
  match Statistics.printTo r.screen.sink r.context.graph r.context.trace with
  | (.ok (), sink) => (.ok (), { r with screen := { r.screen with sink := sink } })
  | (.error fault, sink) =>
    (.error (.statistics fault), { r with screen := { r.screen with sink := sink } })

def announce (r : Run) (artifact : Artifact) : Run :=
  { r with
    context := { r.context with log := r.context.log ++ artifact.records }
    screen := r.screen.note artifact.records }

def publish (r : Run) (artifact : Artifact) : Except RunFault Unit × Run :=
  let announced := r.announce artifact
  match artifact with
  | .trace path => announced.dump path r.context.trace.dump (.traceDump path)
  | .callGraph path => announced.dump path r.context.graph.toDot (.callGraphDump path)
  | .statistics => announced.showStatistics

def publishAll (r : Run) : List Artifact → Except RunFault Unit × Run
  | [] => (.ok (), r)
  | artifact :: rest =>
    match r.publish artifact with
    | (.ok (), r) => r.publishAll rest
    | (.error fault, r) => (.error fault, r)

def program (o : Options) (sink : Sink) : Except Fault Unit × Context :=
  let c := (Context.fresh o.mode sink).note .info .program
    ("Running probe in " ++ o.mode.display ++ " mode")
  if o.factoryOnly then Program.factoryOnly o.capture c
  else
    match Program.run o.capture o.closureArgs c with
    | (.ok _, c) => (.ok (), c)
    | (.error fault, c) => (.error fault, c)

/-- Runs the program, flushes its output and publishes its artifacts. -/
def execute (o : Options) (sink : Sink) (directory : Directory) (screen : Screen) :
    Except RunFault Unit × Run :=
  match program o sink with
  | (result, c) =>
    let r : Run := ⟨c, directory, screen.note c.log⟩
    match result with
    | .error fault => (.error (.output fault), r)
    | .ok () =>
      match c.flush with
      | .error fault => (.error (.flush fault), r)
      | .ok () => r.publishAll o.artifacts

end Run
end CaptureProbe
