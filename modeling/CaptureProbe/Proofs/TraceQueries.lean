import Mathlib.Algebra.GroupWithZero.Nat
import Mathlib.Data.Finset.Card
import CaptureProbe.Proofs.RecordAgreement
import CaptureProbe.Proofs.ReportText

/-!
What the queries on a trace answer, taken together. Each query goes over the whole trace and keeps what
it asks for: emissions, emissions for one caller, receivers of one type of call. Between them they keep
every observation once, in its order, and the statistics count and list what they keep.
-/

namespace CaptureProbe

namespace Trace

def push (t : Trace) : Sighting → Trace
  | .emitted caller value => t.pushEmitted caller value
  | .receiver callType value => t.pushReceiver callType value

def build (pushes : List Sighting) : Trace := pushes.foldl push empty

def callers (t : Trace) : List String := (t.observations.filterMap Observation.emitter?).eraseDups

end Trace

end CaptureProbe
