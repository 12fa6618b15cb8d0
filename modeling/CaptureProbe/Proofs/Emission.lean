import CaptureProbe.Proofs.Growth

/-!
What an emission does. A line is written in pieces and any piece may be cut, but the result depends on
the line as a whole: either the sink has room for all of it and the value is observed, or the sink
takes what fits, is full from then on, and nothing is observed. No line is empty, so a full sink fits
none.
-/

namespace CaptureProbe

def Value.lineBytes (v : Value) : List UInt8 := Text.bytes v.line

theorem Text.bytes_join (pieces : List String) :
    bytes (String.join pieces) = pieces.flatMap bytes := by
  induction pieces with
  | nil => simp [String.join]
  | cons piece rest ih =>
      rw [String.join_cons, bytes_append, ih, List.flatMap_cons]

namespace Value

theorem flatMap_linePieces (v : Value) : v.linePieces.flatMap Text.bytes = v.lineBytes := by
  simp [linePieces, lineBytes, line, display, Text.bytes_join]

theorem length_lineBytes (v : Value) :
    v.lineBytes.length = (Text.bytes v.display).length + 1 := by
  have newline : (Text.bytes "\n").length = 1 := by decide
  rw [lineBytes, line, Text.bytes_append, List.length_append, newline]

end Value

namespace Sink

def part (s : Sink) (bytes : List UInt8) : List UInt8 := bytes.take (s.room bytes.length)

def fits (s : Sink) (v : Value) : Bool := s.room v.lineBytes.length == v.lineBytes.length

/-- How many of `count` lines of `length` bytes the sink has room for, none of them cut. -/
def wholeLines (s : Sink) (length count : Nat) : Nat :=
  match s.limit with
  | none => count
  | some limit => min count ((limit - s.written.length) / length)

@[simp] theorem limit_append (s : Sink) (bytes : List UInt8) : (s.append bytes).limit = s.limit := rfl

@[simp] theorem written_append (s : Sink) (bytes : List UInt8) :
    (s.append bytes).written = s.written ++ bytes := rfl

@[simp] theorem overflow_append (s : Sink) (bytes : List UInt8) (stall : Fault) :
    (s.append bytes).overflow stall = s.overflow stall := rfl

theorem append_append (s : Sink) (first second : List UInt8) :
    (s.append first).append second = s.append (first ++ second) := by
  simp only [append, List.append_assoc]

theorem room_mono (s : Sink) {few many : Nat} (le : few ≤ many) :
    s.room few = min few (s.room many) := by
  unfold room
  split <;> omega

theorem fits_iff (s : Sink) (v : Value) :
    s.fits v = true ↔ s.room v.lineBytes.length = v.lineBytes.length := by
  simp [fits]

theorem cut_of_not_fits {s : Sink} {v : Value} (fits : s.fits v = false) :
    s.room v.lineBytes.length ≠ v.lineBytes.length := by
  intro whole
  rw [(s.fits_iff v).mpr whole] at fits
  cases fits

@[simp] theorem part_nil (s : Sink) : s.part [] = [] := by simp [part]

theorem part_of_fits {s : Sink} {v : Value} (fits : s.fits v = true) :
    s.part v.lineBytes = v.lineBytes := by
  rw [part, (s.fits_iff v).mp fits, List.take_length]

theorem part_isPrefix (s : Sink) (bytes : List UInt8) : s.part bytes <+: bytes :=
  List.take_prefix _ _

theorem part_append_of_fits {s : Sink} {first : List UInt8} (second : List UInt8)
    (fits : s.room first.length = first.length) :
    s.part (first ++ second) = first ++ (s.append first).part second := by
  have reach := s.room_mono (Nat.le_add_right first.length second.length)
  rw [part, part, room_append, ← List.length_append, List.take_append]
  rw [List.take_of_length_le]
  rw [List.length_append]
  omega

theorem part_append_of_cut {s : Sink} {first : List UInt8} (second : List UInt8)
    (cut : s.room first.length ≠ first.length) :
    s.part (first ++ second) = s.part first := by
  have reach := s.room_mono (Nat.le_add_right first.length second.length)
  have most := s.room_le first.length
  rw [part, part, List.length_append, List.take_append_of_le_length (by omega)]
  congr 1
  omega

-- A sink that cut what was written to it has room for nothing more.
theorem room_of_cut {s : Sink} {bytes : List UInt8} (cut : s.room bytes.length ≠ bytes.length)
    (count : Nat) : (s.append (s.part bytes)).room count = 0 := by
  have most := s.room_le bytes.length
  have taken : (s.part bytes).length = s.room bytes.length := by
    rw [part, List.length_take]
    omega
  rw [room_append, taken]
  unfold room at *
  cases bound : s.limit with
  | none => simp [bound] at cut
  | some limit =>
      simp only [bound] at cut ⊢
      omega

theorem not_fits_of_full {s : Sink} (full : ∀ count, s.room count = 0) (v : Value) :
    s.fits v = false := by
  have long := v.length_lineBytes
  rw [fits, full]
  simp only [beq_eq_false_iff_ne, ne_eq]
  omega

@[simp] theorem wholeLines_zero (s : Sink) (length : Nat) : s.wholeLines length 0 = 0 := by
  unfold wholeLines
  split <;> simp

theorem wholeLines_le (s : Sink) (length count : Nat) : s.wholeLines length count ≤ count := by
  unfold wholeLines
  split
  · exact Nat.le_refl _
  · exact Nat.min_le_left _ _

theorem wholeLines_of_fits {s : Sink} {v : Value} (fits : s.fits v = true) (count : Nat) :
    s.wholeLines v.lineBytes.length (count + 1) =
      (s.append v.lineBytes).wholeLines v.lineBytes.length count + 1 := by
  have long := v.length_lineBytes
  have room := (s.fits_iff v).mp fits
  unfold wholeLines Sink.room at *
  simp only [limit_append, written_append, List.length_append]
  cases limit : s.limit with
  | none => rfl
  | some most =>
      simp only [limit] at room ⊢
      -- the line fits, so one division step can be taken off what is left
      have step := Nat.div_eq_sub_div (a := most - s.written.length) (b := v.lineBytes.length)
        (by omega) (by omega)
      rw [step, Nat.sub_sub]
      omega

theorem wholeLines_of_not_fits {s : Sink} {v : Value} (fits : s.fits v = false) (count : Nat) :
    s.wholeLines v.lineBytes.length count = 0 := by
  have room := cut_of_not_fits fits
  unfold wholeLines Sink.room at *
  cases limit : s.limit with
  | none => simp [limit] at room
  | some most =>
      simp only [limit] at room
      have short : most - s.written.length < v.lineBytes.length := by omega
      simp [Nat.div_eq_of_lt short]

end Sink

namespace Context

theorem emit_eq (c : Context) (v : Value) :
    c.emit v =
      (if c.sink.fits v then .ok () else .error (c.sink.overflow .stalled),
        { c with
          sink := c.sink.append (c.sink.part v.lineBytes)
          trace := c.trace.observe
            (if c.sink.fits v then [.emitted c.caller.name v] else []) }) := by
  unfold emit
  rw [Sink.print_eq, Value.flatMap_linePieces, Sink.writeAll_eq]
  by_cases whole : c.sink.room v.lineBytes.length = v.lineBytes.length
  · simp [Sink.fits, Sink.part, whole, Trace.pushEmitted_eq]
  · simp [Sink.fits, Sink.part, whole]

end Context
end CaptureProbe
