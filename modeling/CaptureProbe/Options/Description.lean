import CaptureProbe.Options.Basic
import CaptureProbe.Text.Quoted

/-!
The description of options in the log, on one line.
-/

namespace CaptureProbe

namespace Value

def describe : Value → String
  | .undefined => "Undefined"
  | .null => "Null"
  | .bool b => "Bool(" ++ (if b then "true" else "false") ++ ")"
  | .number x => "Number(" ++ x.describe ++ ")"
  | .text s => "Str(" ++ Text.quoted s ++ ")"
  | .object ref => "Object(ObjectRef \x7b id: ObjectId(" ++ Nat.repr ref.id ++ "), name: "
      ++ Text.quoted ref.name ++ " \x7d)"
  | .function ref => "Function(FuncRef \x7b id: FuncId(" ++ Nat.repr ref.id ++ "), name: "
      ++ Text.quoted ref.name ++ " \x7d)"

end Value

namespace Options

def describeMode : Mode → String
  | .strict => "Strict"
  | .sloppy => "Sloppy"
  | .module => "Module"

def describeFlag (b : Bool) : String := if b then "true" else "false"

def describePath : Option String → String
  | none => "None"
  | some path => "Some(" ++ Text.quoted path ++ ")"

def describe (o : Options) : String :=
  "ProbeOptions \x7b mode: " ++ describeMode o.mode
    ++ ", capture: " ++ o.capture.describe
    ++ ", closure_args: [" ++ String.intercalate ", " (o.closureArgs.map Value.describe)
    ++ "], factory_only: " ++ describeFlag o.factoryOnly
    ++ ", dump_stats: " ++ describeFlag o.dumpStats
    ++ ", trace_output: " ++ describePath o.traceOutput
    ++ ", call_graph_output: " ++ describePath o.callGraphOutput
    ++ " \x7d"

end Options
end CaptureProbe
