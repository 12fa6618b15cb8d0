import CaptureProbe.Output.Fault
import CaptureProbe.Text.Bytes

/-!
An output stream that may be bounded. It takes bytes in order until its limit, at most a chunk at a
time and none past a pause; once it is full, an offer is refused or nothing of it is taken. What was
taken stays taken.
-/

namespace CaptureProbe

inductive WhenFull where
  | refuse (fault : Fault)
  | takeNothing
  deriving DecidableEq, Repr

structure Sink where
  written : List UInt8 := []
  limit : Option Nat := none
  /-- The most bytes it takes of one offer, but at least one while there is room; any number if
  absent. -/
  chunk : Option Nat := none
  /-- The counts of bytes at which it pauses: it takes an offer no further than to the next of them. -/
  pauses : List Nat := []
  whenFull : WhenFull := .refuse (.closed .brokenPipe)
  flushFault : Option Fault := none
  deriving DecidableEq, Repr

namespace Sink

def room (s : Sink) (count : Nat) : Nat :=
  match s.limit with
  | none => count
  | some limit => min count (limit - s.written.length)

def upToPause (s : Sink) (count : Nat) : Nat :=
  match s.pauses.find? (s.written.length < ·) with
  | none => count
  | some pause => min count (pause - s.written.length)

def taken (s : Sink) (count : Nat) : Nat :=
  match s.chunk with
  | none => s.upToPause (s.room count)
  | some chunk => s.upToPause (min (s.room count) (max 1 chunk))

def offer (s : Sink) (bytes : List UInt8) : Except Fault Nat :=
  if s.room bytes.length = 0 then
    match s.whenFull with
    | .refuse fault => .error fault
    | .takeNothing => .ok 0
  else .ok (s.taken bytes.length)

def append (s : Sink) (bytes : List UInt8) : Sink := { s with written := s.written ++ bytes }

/-- Writes all bytes, offering again what was not taken. If an offer takes nothing the write ends with
the fault `stall`. -/
def writeAll (stall : Fault) (s : Sink) : List UInt8 → Except Fault Unit × Sink
  | [] => (.ok (), s)
  | byte :: rest =>
    match s.offer (byte :: rest) with
    | .error fault => (.error fault, s)
    | .ok 0 => (.error stall, s)
    | .ok (more + 1) => writeAll stall (s.append (byte :: rest.take more)) (rest.drop more)
termination_by bytes => bytes.length
decreasing_by
  simp only [List.length_drop, List.length_cons]
  omega

def print (s : Sink) : List String → Except Fault Unit × Sink
  | [] => (.ok (), s)
  | piece :: rest =>
    match s.writeAll .stalled (Text.bytes piece) with
    | (.ok (), s) => s.print rest
    | (.error fault, s) => (.error fault, s)

def flush (s : Sink) : Except Fault Unit :=
  match s.flushFault with
  | none => .ok ()
  | some fault => .error fault

end Sink
end CaptureProbe
