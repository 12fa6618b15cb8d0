import CaptureProbe.Log.Filter
import CaptureProbe.Output.Sink

/-!
The screen: the stream on which a user is shown diagnostics. Log records that the filter lets through
appear between the other texts, in the order in which all of them were shown.
-/

namespace CaptureProbe

structure Screen where
  sink : Sink := {}
  /-- The log filter; no record is shown without one. -/
  filter : Option Log.Filter := none

namespace Screen

def lines (s : Screen) (records : List Log.Record) : String :=
  match s.filter with
  | none => ""
  | some filter => filter.lines records

def print (s : Screen) (text : String) : Screen := { s with sink := (s.sink.print [text]).2 }

def note (s : Screen) (records : List Log.Record) : Screen := s.print (s.lines records)

def shown (s : Screen) : List UInt8 := s.sink.written

def ofSpec : Option String → Screen
  | none => {}
  | some spec => print { filter := some (Log.Filter.ofSpec spec) } (Log.Filter.warnings spec)

end Screen
end CaptureProbe
