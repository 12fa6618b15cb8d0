import CaptureProbe.Output.Sink

/-!
A buffer in front of a stream. Small pieces are held back until the next one no longer fits; a piece
as large as the buffer is passed on at once. Bytes reach the stream in order and once each.
-/

namespace CaptureProbe

structure Buffer where
  sink : Sink
  held : List UInt8 := []

namespace Buffer

def capacity : Nat := 8192

/-- Passes on what is held. What the stream did not take is held on to. -/
def release (b : Buffer) : Except Fault Unit × Buffer :=
  match b.sink.writeAll .bufferStalled b.held with
  | (result, sink) =>
    (result, ⟨sink, b.held.drop (sink.written.length - b.sink.written.length)⟩)

/-- Holds a piece that fits, or passes it on if it is as large as the buffer. -/
def accept (b : Buffer) (piece : List UInt8) : Except Fault Unit × Buffer :=
  if piece.length < capacity then (.ok (), { b with held := b.held ++ piece })
  else
    match b.sink.writeAll .stalled piece with
    | (result, sink) => (result, { b with sink := sink })

def write (b : Buffer) (piece : List UInt8) : Except Fault Unit × Buffer :=
  if b.held.length + piece.length ≤ capacity then b.accept piece
  else
    match b.release with
    | (.ok (), b) => b.accept piece
    | (.error fault, b) => (.error fault, b)

def print (b : Buffer) : List String → Except Fault Unit × Buffer
  | [] => (.ok (), b)
  | piece :: rest =>
    match b.write (Text.bytes piece) with
    | (.ok (), b) => b.print rest
    | (.error fault, b) => (.error fault, b)

def flush (b : Buffer) : Except Fault Unit × Buffer :=
  match b.release with
  | (.ok (), b) => (b.sink.flush, b)
  | (.error fault, b) => (.error fault, b)

def printAll (sink : Sink) (pieces : List String) : Except Fault Unit × Sink :=
  match (Buffer.mk sink []).print pieces with
  | (.ok (), b) =>
    match b.flush with
    | (result, b) => (result, b.sink)
  | (.error fault, b) => (.error fault, b.sink)

end Buffer
end CaptureProbe
