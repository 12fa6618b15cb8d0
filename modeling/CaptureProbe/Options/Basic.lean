import CaptureProbe.Realm

/-!
The options of a run, and patches: what one list of arguments asks to change, whatever the options
were before.
-/

namespace CaptureProbe

structure Options where
  mode : Mode
  capture : Value
  closureArgs : List Value
  factoryOnly : Bool
  dumpStats : Bool
  traceOutput : Option String
  callGraphOutput : Option String
  deriving DecidableEq

namespace Options

def default : Options where
  mode := .strict
  capture := .ofInt 1
  closureArgs := [.ofInt 1, .ofInt 2, .ofInt 3]
  factoryOnly := false
  dumpStats := false
  traceOutput := none
  callGraphOutput := none

end Options

structure Patch where
  mode : Option Mode
  capture : Option Value
  /-- New closure arguments; none given leaves the old ones. -/
  closureArgs : List Value
  factoryOnly : Bool
  dumpStats : Bool
  traceOutput : Option String
  callGraphOutput : Option String
  deriving DecidableEq

/-- Flags can only be set; all else is replaced where the patch has a value. -/
def Patch.apply (p : Patch) (o : Options) : Options where
  mode := p.mode.getD o.mode
  capture := p.capture.getD o.capture
  closureArgs := if p.closureArgs = [] then o.closureArgs else p.closureArgs
  factoryOnly := o.factoryOnly || p.factoryOnly
  dumpStats := o.dumpStats || p.dumpStats
  traceOutput := p.traceOutput.or o.traceOutput
  callGraphOutput := p.callGraphOutput.or o.callGraphOutput

end CaptureProbe
