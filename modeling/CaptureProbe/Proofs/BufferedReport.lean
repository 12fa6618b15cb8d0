import CaptureProbe.Proofs.Emission
import CaptureProbe.Statistics

/-!
Writing through a buffer is writing plainly, then flushing. Between two pieces a buffered stream is
behind a plain one by what the buffer holds; a fault comes up later than it would, but what the stream
was given by then is what it would have been given, because a stream that was cut is full. So the
statistics are cut where there is no more room, and cut statistics are never reported as written.
-/

namespace CaptureProbe

namespace Sink

variable {s : Sink} {first : List UInt8}

theorem fits_append (second : List UInt8) (fits : s.room first.length = first.length) :
    (s.append first).room second.length = second.length ↔
      s.room (first ++ second).length = (first ++ second).length := by
  have reach := s.room_mono (Nat.le_add_right first.length second.length)
  have most := s.room_le (first.length + second.length)
  rw [room_append, List.length_append]
  omega

theorem part_of_unbounded (unbounded : s.limit = none) (bytes : List UInt8) : s.part bytes = bytes := by
  rw [part, room, unbounded]
  exact List.take_length

theorem isOk_flush_iff (s : Sink) : s.flush.isOk = true ↔ s.flushFault = none := by
  unfold flush
  cases s.flushFault with
  | none => exact iff_of_true rfl rfl
  | some fault => exact iff_of_false Bool.false_ne_true (Option.some_ne_none fault)

-- Writing on behind bytes that fitted ends as writing both together would.
theorem writeAll_behind (stall : Fault) (second : List UInt8)
    (fits : s.room first.length = first.length) :
    (s.append first).writeAll stall second =
      (if s.room (first ++ second).length = (first ++ second).length then .ok ()
        else .error (s.overflow stall), s.append (s.part (first ++ second))) := by
  rw [writeAll_eq, part_append_of_fits second fits, ← append_append]
  simp only [fits_append second fits]
  rfl

end Sink

namespace Buffer

/-- What writing some bytes through a buffer comes to. Without a fault, the stream has the bytes up to
those that the buffer still holds. With one, the stream was cut, where plain writing would cut it. -/
inductive Passes (sink : Sink) (bytes : List UInt8) : Except Fault Unit × Buffer → Prop where
  | held {b : Buffer} (front : List UInt8) (whole : front ++ b.held = bytes)
      (fits : sink.room front.length = front.length) (passed : b.sink = sink.append front) :
      Passes sink bytes (.ok (), b)
  | cut {b : Buffer} (fault : Fault) (short : sink.room bytes.length ≠ bytes.length)
      (passed : b.sink = sink.append (sink.part bytes)) : Passes sink bytes (.error fault, b)

namespace Passes

variable {sink : Sink} {bytes : List UInt8} {b : Buffer}

theorem longer {fault : Fault} (passes : Passes sink bytes (.error fault, b)) (more : List UInt8) :
    Passes sink (bytes ++ more) (.error fault, b) := by
  cases passes with
  | cut _ short passed =>
      refine .cut fault ?_ ?_
      · have reach := sink.room_mono (Nat.le_add_right bytes.length more.length)
        have most := sink.room_le bytes.length
        rw [List.length_append]
        omega
      · rw [Sink.part_append_of_cut more short]
        exact passed

theorem release (passes : Passes sink bytes (.ok (), b)) :
    Passes sink bytes b.release ∧ (b.release.1 = .ok () → b.release.2.held = []) := by
  cases passes with
  | held front whole fits passed =>
      have released : b.release =
          (if sink.room bytes.length = bytes.length then .ok ()
            else .error (sink.overflow .bufferStalled), ⟨sink.append (sink.part bytes),
            b.held.drop ((sink.append (sink.part bytes)).written.length -
              (sink.append front).written.length)⟩) := by
        rw [Buffer.release, passed, Sink.writeAll_behind .bufferStalled b.held fits, whole]
      rw [released]
      by_cases all : sink.room bytes.length = bytes.length
      · have taken : sink.part bytes = bytes := by rw [Sink.part, all, List.take_length]
        have nothing : b.held.drop ((sink.append bytes).written.length -
            (sink.append front).written.length) = [] := by
          simp only [Sink.written_append, List.length_append, ← whole, List.drop_eq_nil_iff]
          omega
        rw [if_pos all, taken, nothing]
        exact ⟨.held bytes (List.append_nil bytes) all rfl, fun _ => rfl⟩
      · rw [if_neg all]
        exact ⟨.cut _ all rfl, by rintro ⟨⟩⟩

theorem accept (passes : Passes sink bytes (.ok (), b)) {piece : List UInt8}
    (ready : piece.length < capacity ∨ b.held = []) :
    Passes sink (bytes ++ piece) (b.accept piece) := by
  cases passes with
  | held front whole fits passed =>
      by_cases small : piece.length < capacity
      · rw [Buffer.accept, if_pos small]
        refine .held front ?_ fits passed
        rw [← List.append_assoc, whole]
      · -- nothing is held, so the piece comes right behind what the stream has
        have empty := ready.resolve_left small
        rw [empty, List.append_nil] at whole
        rw [Buffer.accept, if_neg small, passed, Sink.writeAll_behind .stalled piece fits, whole]
        by_cases all : sink.room (bytes ++ piece).length = (bytes ++ piece).length
        · rw [if_pos all]
          refine .held (bytes ++ piece) ?_ all ?_
          · rw [empty, List.append_nil]
          · rw [Sink.part, all, List.take_length]
        · rw [if_neg all]
          exact .cut _ all rfl

theorem write (passes : Passes sink bytes (.ok (), b)) (piece : List UInt8) :
    Passes sink (bytes ++ piece) (b.write piece) := by
  unfold Buffer.write
  by_cases room : b.held.length + piece.length ≤ capacity
  · rw [if_pos room]
    apply passes.accept
    by_cases small : piece.length < capacity
    · exact Or.inl small
    · have none_ : b.held.length = 0 := by omega
      exact Or.inr (List.length_eq_zero_iff.mp none_)
  · rw [if_neg room]
    obtain ⟨released, empty⟩ := passes.release
    generalize b.release = answer at released empty
    obtain ⟨fault | ⟨⟩, rest⟩ := answer
    · exact released.longer piece
    · exact released.accept (Or.inr (empty rfl))

theorem print (passes : Passes sink bytes (.ok (), b)) (pieces : List String) :
    Passes sink (bytes ++ pieces.flatMap Text.bytes) (b.print pieces) := by
  induction pieces generalizing bytes b with
  | nil =>
      rw [List.flatMap_nil, List.append_nil]
      exact passes
  | cons piece rest ih =>
      have next := passes.write (Text.bytes piece)
      rw [Buffer.print, List.flatMap_cons, ← List.append_assoc]
      generalize b.write (Text.bytes piece) = answer at next
      obtain ⟨fault | ⟨⟩, c⟩ := answer
      · exact next.longer _
      · exact ih next

end Passes

theorem fresh_passes (sink : Sink) : Passes sink [] (.ok (), ⟨sink, []⟩) :=
  .held [] rfl (Nat.le_zero.mp (sink.room_le 0)) (Sink.append_nil sink).symm

/-- Pieces that go through a buffer leave in the stream what there is room for, and there is a fault if
that is not all or the stream cannot be flushed. -/
theorem printAll_eq (sink : Sink) (pieces : List String) {bytes : List UInt8}
    (joined : pieces.flatMap Text.bytes = bytes) :
    (printAll sink pieces).2 = sink.append (sink.part bytes) ∧
      ((printAll sink pieces).1.isOk = true ↔
        sink.room bytes.length = bytes.length ∧ sink.flushFault = none) := by
  have passes := (fresh_passes sink).print pieces
  rw [List.nil_append, joined] at passes
  unfold printAll flush
  generalize (Buffer.mk sink []).print pieces = answer at passes
  cases passes with
  | cut fault short passed =>
      exact ⟨passed, iff_of_false Bool.false_ne_true fun all => short all.1⟩
  | @held b front whole fits passed =>
      obtain ⟨released, empty⟩ := (Passes.held front whole fits passed).release
      simp only
      generalize b.release = last at released empty
      cases released with
      | cut fault short passed =>
          exact ⟨passed, iff_of_false Bool.false_ne_true fun all => short all.1⟩
      | @held c front whole fits passed =>
          rw [empty rfl, List.append_nil] at whole
          rw [whole] at fits passed
          simp only
          rw [passed]
          refine ⟨?_, ?_⟩
          · rw [Sink.part, fits, List.take_length]
          · rw [Sink.isOk_flush_iff]
            exact ⟨fun clear => ⟨fits, clear⟩, And.right⟩

end Buffer

namespace Statistics

theorem flatMap_pieces (g : CallGraph) (t : Trace) :
    (pieces g t).flatMap Text.bytes = Text.bytes (report g t) :=
  (Text.bytes_join (pieces g t)).symm

theorem printTo_unbounded (g : CallGraph) (t : Trace) :
    (printTo {} g t).2.written = Text.bytes (report g t) := by
  rw [printTo, (Buffer.printAll_eq {} (pieces g t) (flatMap_pieces g t)).1, Sink.written_append,
    Sink.part_of_unbounded rfl, List.nil_append]

/-- What the statistics leave in a stream, however it takes them and whether or not it can be flushed:
the bytes of the report that there is room for, out of those that an unbounded stream gets. There is a
fault if and only if these are not all or the flush fails, so a cut report never passes for a written
one. -/
theorem report_passes_buffer (sink : Sink) (g : CallGraph) (t : Trace) :
    let whole := (printTo {} g t).2.written
    let answer := printTo sink g t
    whole = Text.bytes (report g t) ∧
      answer.2 = sink.append (whole.take (sink.room whole.length)) ∧
      (answer.1.isOk = false ↔
        sink.room whole.length < whole.length ∨ sink.flushFault.isSome = true) ∧
      (answer.1.isOk = true ↔
        answer.2.written = sink.written ++ whole ∧ sink.flushFault = none) := by
  simp only [printTo_unbounded, true_and]
  obtain ⟨left, success⟩ := Buffer.printAll_eq sink (pieces g t) (flatMap_pieces g t)
  rw [← printTo] at left success
  generalize Text.bytes (report g t) = whole at left success ⊢
  generalize printTo sink g t = answer at left success ⊢
  have most := sink.room_le whole.length
  refine ⟨left, ?_, ?_⟩
  · rw [← Bool.not_eq_true, success, ← Option.not_isSome_iff_eq_none]
    by_cases flushes : sink.flushFault.isSome = true
    · simp [flushes]
    · simp only [flushes, Bool.false_eq_true, not_false_eq_true, and_true, or_false]
      omega
  · have written : answer.2.written = sink.written ++ whole ↔
        sink.room whole.length = whole.length := by
      rw [left, Sink.written_append, List.append_cancel_left_eq, Sink.part]
      constructor
      · intro same
        have lengths := congrArg List.length same
        rw [List.length_take] at lengths
        omega
      · intro all
        rw [all, List.take_length]
    rw [success, written]

end Statistics
end CaptureProbe
