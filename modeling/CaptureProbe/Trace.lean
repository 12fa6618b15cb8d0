import CaptureProbe.Call

/-!
The trace: what was observed, in order, each observation under its number. Emissions and receivers
are read back as filtered views of the one list.
-/

namespace CaptureProbe

inductive Observation where
  | emitted (seq : Nat) (caller : String) (value : Value)
  | receiver (seq : Nat) (callType : CallType) (value : Value)
  deriving DecidableEq

namespace Observation

def seq : Observation → Nat
  | .emitted seq _ _ => seq
  | .receiver seq _ _ => seq

def emission? : Observation → Option Value
  | .emitted _ _ value => some value
  | .receiver _ _ _ => none

def emissionBy? (caller : String) : Observation → Option Value
  | .emitted _ name value => if name = caller then some value else none
  | .receiver _ _ _ => none

def receiver? (t : CallType) : Observation → Option Value
  | .emitted _ _ _ => none
  | .receiver _ callType value => if callType = t then some value else none

def json (style : Json.Style) (depth : Nat) : Observation → String
  | .emitted seq caller value =>
    style.record depth [("kind", Json.string "emitted"), ("seq", Json.natural seq),
      ("caller", Json.string caller), ("value", value.json style (depth + 1))]
  | .receiver seq callType value =>
    style.record depth [("kind", Json.string "receiver"), ("seq", Json.natural seq),
      ("call_type", Json.string callType.display), ("value", value.json style (depth + 1))]

end Observation

structure Trace where
  observations : List Observation := []
  deriving DecidableEq

namespace Trace

def empty : Trace := {}

def length (t : Trace) : Nat := t.observations.length

def pushEmitted (t : Trace) (caller : String) (value : Value) : Trace :=
  ⟨t.observations ++ [.emitted t.length caller value]⟩

def pushReceiver (t : Trace) (callType : CallType) (value : Value) : Trace :=
  ⟨t.observations ++ [.receiver t.length callType value]⟩

def emitted (t : Trace) : List Value := t.observations.filterMap Observation.emission?

def emittedBy (t : Trace) (caller : String) : List Value :=
  t.observations.filterMap (Observation.emissionBy? caller)

def receivers (t : Trace) (callType : CallType) : List Value :=
  t.observations.filterMap (Observation.receiver? callType)

@[simp] theorem length_pushEmitted (t : Trace) (caller : String) (value : Value) :
    (t.pushEmitted caller value).length = t.length + 1 := by
  simp [pushEmitted, length]

@[simp] theorem length_pushReceiver (t : Trace) (callType : CallType) (value : Value) :
    (t.pushReceiver callType value).length = t.length + 1 := by
  simp [pushReceiver, length]

@[simp] theorem emitted_pushEmitted (t : Trace) (caller : String) (value : Value) :
    (t.pushEmitted caller value).emitted = t.emitted ++ [value] := by
  simp [pushEmitted, emitted, Observation.emission?]

@[simp] theorem emitted_pushReceiver (t : Trace) (callType : CallType) (value : Value) :
    (t.pushReceiver callType value).emitted = t.emitted := by
  simp [pushReceiver, emitted, Observation.emission?]

def dump (t : Trace) : String :=
  Json.Style.pretty.list 0 (t.observations.map (Observation.json .pretty 1))

def compact (t : Trace) : String :=
  Json.Style.compact.record 0
    [("observations", Json.Style.compact.list 1 (t.observations.map (Observation.json .compact 2)))]

end Trace
end CaptureProbe
