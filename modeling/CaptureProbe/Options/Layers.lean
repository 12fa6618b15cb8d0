import CaptureProbe.Log.Basic
import CaptureProbe.Options.Scan
import CaptureProbe.Text.JsonStrings

/-!
Options in layers: the flags of the environment over the defaults, and the command line over both.
Environment flags that cannot be read are ignored.
-/

namespace CaptureProbe.Options

/-- The arguments that the text of the environment flags holds: a JSON list of strings, or nothing. -/
def environmentArguments (flags : Option String) : List String :=
  (flags.bind Json.strings?).getD []

/-- Applies arguments of the environment. A list that is refused is reported in the log and changes
nothing. -/
def applyEnvironment (arguments : List String) (o : Options) : Options × List Log.Record :=
  match parse arguments with
  | .ok patch => (patch.apply o, [])
  | .error refusal => (o, [⟨.warn, .options, "Ignoring PROBE_FLAGS: " ++ refusal.message⟩])

def applyCommandLine (arguments : List String) (o : Options) : Except Refusal Options :=
  (parse arguments).map (·.apply o)

end CaptureProbe.Options
