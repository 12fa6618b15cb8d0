import CaptureProbe.Options.Argument
import CaptureProbe.Text.Quoted

/-!
Why a list of arguments gives no options: it is wrong, or it asks for help or the version instead.
-/

namespace CaptureProbe.Options

inductive Switch where
  | setting (s : Setting)
  | flag (f : Flag)
  deriving DecidableEq, Repr

def Switch.usage : Switch → String
  | .setting s => s.usage
  | .flag f => f.usage

inductive Refusal where
  | unknown (text : String)
  | surplus (name value : String)
  | invalidMode (value : String)
  | missingValue (setting : Setting)
  | repeated (switch : Switch)
  | help (long : Bool)
  | version
  deriving DecidableEq, Repr

def banner : String := "probe 0.1.0"

/-- The first line of a text. A carriage return right before the line feed belongs to the line break. -/
def firstLine (s : String) : String :=
  let line := s.toList.takeWhile (· ≠ '\n')
  String.ofList
    (if s.toList.contains '\n' && line.getLast? = some '\r' then line.dropLast else line)

namespace Refusal

def wording : Refusal → String
  | .unknown text =>
    "error: Found argument '" ++ text ++ "' which wasn't expected, or isn't valid in this context"
  | .surplus name value =>
    "error: The value '" ++ value ++ "' was provided to '--" ++ name
      ++ "' but it wasn't expecting any more values"
  | .invalidMode value =>
    "error: " ++ Text.quoted value ++ " isn't a valid value for '" ++ Setting.mode.usage ++ "'"
  | .missingValue s =>
    "error: The argument '" ++ s.usage ++ "' requires a value but none was supplied"
  | .repeated switch =>
    "error: The argument '" ++ switch.usage
      ++ "' was provided more than once, but cannot be used multiple times"
  | .help _ => banner
  | .version => banner

def message (r : Refusal) : String := firstLine r.wording

end Refusal
end CaptureProbe.Options
