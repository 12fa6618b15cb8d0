import CaptureProbe.Output.Sink

/-!
What a write leaves in a bounded stream: the bytes that there was room for, in order, however small
the chunks and wherever the pauses.
-/

namespace CaptureProbe.Sink

def overflow (s : Sink) (stall : Fault) : Fault :=
  match s.whenFull with
  | .refuse fault => fault
  | .takeNothing => stall

theorem room_le (s : Sink) (count : Nat) : s.room count ≤ count := by
  unfold room
  split <;> omega

theorem room_append (s : Sink) (bytes : List UInt8) (count : Nat) :
    (s.append bytes).room count = s.room (bytes.length + count) - bytes.length := by
  unfold room append at *
  cases s.limit with
  | none => simp
  | some limit =>
    simp only [List.length_append] at *
    omega

@[simp] theorem append_nil (s : Sink) : s.append [] = s := by simp [append]

theorem upToPause_pos (s : Sink) {count : Nat} (some_ : 0 < count) : 0 < s.upToPause count := by
  unfold upToPause
  split
  · exact some_
  · rename_i pause next
    have ahead : s.written.length < pause := by simpa using List.find?_some next
    omega

theorem upToPause_le (s : Sink) (count : Nat) : s.upToPause count ≤ count := by
  unfold upToPause
  split <;> omega

theorem taken_pos (s : Sink) (count : Nat) (open_ : s.room count ≠ 0) : 0 < s.taken count := by
  unfold taken
  split
  · exact s.upToPause_pos (by omega)
  · exact s.upToPause_pos (by omega)

theorem taken_le (s : Sink) (count : Nat) : s.taken count ≤ s.room count := by
  unfold taken
  split
  · exact s.upToPause_le _
  · exact Nat.le_trans (s.upToPause_le _) (Nat.min_le_left _ _)

/-- A write takes what there is room for, whatever the chunks and pauses, and succeeds if that is
all. -/
theorem writeAll_eq (stall : Fault) (s : Sink) (bytes : List UInt8) :
    s.writeAll stall bytes =
      (if s.room bytes.length = bytes.length then .ok () else .error (s.overflow stall),
        s.append (bytes.take (s.room bytes.length))) := by
  fun_induction writeAll stall s bytes with
  | case1 s =>
    have none_ := s.room_le 0
    simp [append, Nat.le_zero.mp none_]
  | case2 s byte rest fault refused =>
    unfold offer at refused
    split at refused
    · rename_i full
      split at refused
      · rename_i same
        rw [full]
        simp [overflow, same, Except.error.inj refused]
      · cases refused
    · cases refused
  | case3 s byte rest stalled =>
    unfold offer at stalled
    split at stalled
    · rename_i full
      split at stalled
      · cases stalled
      · rename_i same
        rw [full]
        simp [overflow, same]
    · rename_i open_
      have positive := s.taken_pos _ open_
      have zero := Except.ok.inj stalled
      omega
  | case4 s byte rest more accepted ih =>
    have count : s.taken (byte :: rest).length = more + 1 := by
      unfold offer at accepted
      split at accepted
      · split at accepted <;> cases accepted
      · exact Except.ok.inj accepted
    have bound := s.taken_le (byte :: rest).length
    have whole := s.room_le (byte :: rest).length
    have length : (byte :: rest.take more).length = more + 1 := by
      simp only [List.length_cons, List.length_take] at *
      omega
    have total : (byte :: rest.take more).length + (rest.drop more).length =
        (byte :: rest).length := by
      simp only [List.length_cons, List.length_take, List.length_drop] at *
      omega
    have after := s.room_append (byte :: rest.take more) (rest.drop more).length
    rw [total, length] at after
    rw [ih, after]
    have split_ : (byte :: rest).take (s.room (byte :: rest).length) =
        (byte :: rest.take more) ++
          (rest.drop more).take (s.room (byte :: rest).length - (more + 1)) := by
      obtain ⟨extra, same⟩ := Nat.exists_eq_add_of_le (count ▸ bound)
      rw [same, Nat.add_sub_cancel_left, Nat.add_right_comm, List.take_succ_cons, List.take_add]
      rfl
    simp only [split_, append, List.append_assoc, overflow, Prod.mk.injEq, and_true]
    congr 1
    simp only [List.length_drop, List.length_cons, eq_iff_iff] at *
    omega

/-- Writing two byte strings together is writing one after the other, up to the first fault. -/
theorem writeAll_append (stall : Fault) (s : Sink) (first second : List UInt8) :
    s.writeAll stall (first ++ second) =
      match s.writeAll stall first with
      | (.ok (), s) => s.writeAll stall second
      | (.error fault, s) => (.error fault, s) := by
  have whole := s.room_le (first ++ second).length
  have part := s.room_le first.length
  have after := s.room_append first second.length
  rw [← List.length_append] at after
  have narrow : s.room first.length = min first.length (s.room (first ++ second).length) := by
    unfold room
    split <;> simp only [List.length_append] <;> omega
  rw [writeAll_eq, writeAll_eq]
  by_cases fits : s.room first.length = first.length
  · have reach : first.length ≤ s.room (first ++ second).length := by omega
    simp only [fits, if_true, List.take_length, writeAll_eq, after, Prod.mk.injEq]
    constructor
    · have same : s.room (first ++ second).length = (first ++ second).length ↔
          s.room (first ++ second).length - first.length = second.length := by
        simp only [List.length_append] at *
        omega
      simp only [same]
      rfl
    · rw [List.take_append, List.take_of_length_le reach]
      simp [append]
  · have short : s.room first.length = s.room (first ++ second).length := by omega
    have broken : s.room (first ++ second).length ≠ (first ++ second).length := by
      simp only [List.length_append] at *
      omega
    rw [if_neg fits, if_neg broken, ← short, List.take_append_of_le_length part]

theorem print_eq (s : Sink) (pieces : List String) :
    s.print pieces = s.writeAll .stalled (pieces.flatMap Text.bytes) := by
  induction pieces generalizing s with
  | nil => simp [print, writeAll]
  | cons piece rest ih =>
    rw [print, List.flatMap_cons, writeAll_append]
    split <;> simp_all

end CaptureProbe.Sink
