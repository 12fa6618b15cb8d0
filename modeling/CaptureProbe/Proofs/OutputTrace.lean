import CaptureProbe.Proofs.SessionStep

/-!
The output and the trace tell the same story after every operation of a session, raw context
operations included. What was written is the lines of the emitted values and then at most a piece of
one more line; there is such a piece only after an emission failed, and then the sink is full, so no
later emission succeeds. The invariant names the value of the first emission that failed.
-/

namespace CaptureProbe

namespace Sink

def Bounded (s : Sink) : Prop := ∀ limit, s.limit = some limit → s.written.length ≤ limit

def Full (s : Sink) : Prop := s.limit = some s.written.length

theorem bounded_part {s : Sink} (bounded : s.Bounded) (bytes : List UInt8) :
    (s.append (s.part bytes)).Bounded := by
  intro limit bound
  have before := bounded limit bound
  simp only [limit_append] at bound
  simp only [written_append, part, room, bound, List.length_append, List.length_take]
  omega

theorem full_of_cut {s : Sink} {bytes : List UInt8} (bounded : s.Bounded)
    (cut : s.room bytes.length ≠ bytes.length) : (s.append (s.part bytes)).Full := by
  rw [Full, limit_append, written_append, part]
  unfold room at cut ⊢
  cases bound : s.limit with
  | none => simp [bound] at cut
  | some limit =>
      have before := bounded limit bound
      simp only [bound, Option.some.injEq, List.length_append, List.length_take] at cut ⊢
      omega

theorem room_of_full {s : Sink} (full : s.Full) (count : Nat) : s.room count = 0 := by
  rw [room, full]
  simp

/-- What a sink takes of equal lines: those that fit whole, and a piece of the next if not all do. -/
theorem part_lines (s : Sink) (bounded : s.Bounded) (v : Value) (count : Nat) :
    ∃ rest, s.part (List.replicate count v.lineBytes).flatten =
        (List.replicate (s.wholeLines v.lineBytes.length count) v.lineBytes).flatten ++ rest ∧
      if s.wholeLines v.lineBytes.length count = count then rest = []
      else rest <+: v.lineBytes ∧ rest ≠ v.lineBytes ∧
        (s.append (s.part (List.replicate count v.lineBytes).flatten)).Full := by
  induction count generalizing s with
  | zero => exact ⟨[], by simp⟩
  | succ count ih =>
      cases fits : s.fits v with
      | true =>
          have room := (s.fits_iff v).mp fits
          have next : (s.append v.lineBytes).Bounded := by
            have kept := bounded_part bounded v.lineBytes
            rwa [part_of_fits fits] at kept
          obtain ⟨rest, lines, state⟩ := ih (s.append v.lineBytes) next
          refine ⟨rest, ?_, ?_⟩
          · rw [wholeLines_of_fits fits, List.replicate_succ, List.flatten_cons,
              part_append_of_fits _ room, lines, List.replicate_succ, List.flatten_cons,
              List.append_assoc]
          · rw [append_append, ← part_append_of_fits _ room] at state
            simpa only [wholeLines_of_fits fits, Nat.add_right_cancel_iff, List.replicate_succ,
              List.flatten_cons] using state
      | false =>
          have cut := cut_of_not_fits fits
          refine ⟨s.part v.lineBytes, ?_, ?_⟩
          · rw [wholeLines_of_not_fits fits, List.replicate_succ, List.flatten_cons,
              part_append_of_cut _ cut]
            rfl
          · rw [wholeLines_of_not_fits fits, if_neg (by omega), List.replicate_succ,
              List.flatten_cons, part_append_of_cut _ cut]
            refine ⟨s.part_isPrefix _, ?_, full_of_cut bounded cut⟩
            intro whole
            have length := congrArg List.length whole
            have most := s.room_le v.lineBytes.length
            rw [part, List.length_take] at length
            omega

end Sink

namespace Context

/-- One context comes from another by writing `count` lines of a value, up to the first that is cut,
and observing those that were written whole. -/
structure Bursts (c : Context) (v : Value) (count : Nat) (d : Context) : Prop where
  sink : d.sink = c.sink.append (c.sink.part (List.replicate count v.lineBytes).flatten)
  emitted : d.trace.emitted =
    c.trace.emitted ++ List.replicate (c.sink.wholeLines v.lineBytes.length count) v

theorem wholeLines_one (s : Sink) (v : Value) :
    s.wholeLines v.lineBytes.length 1 = if s.fits v then 1 else 0 := by
  cases fits : s.fits v with
  | true => rw [Sink.wholeLines_of_fits fits, Sink.wholeLines_zero]; rfl
  | false => rw [Sink.wholeLines_of_not_fits fits]; rfl

theorem Grows.bursts {c d : Context} {calls : List Call} {caller : FuncRef} {n : Value}
    (grows : c.Grows (.emission c.sink calls caller n) d) : c.Bursts n 1 d where
  sink := by
    rw [grows.sink, List.replicate_one, List.flatten_singleton]
    rfl
  emitted := by
    rw [grows.emitted, wholeLines_one, Growth.emission]
    cases c.sink.fits n <;> rfl

theorem emit_bursts (c : Context) (v : Value) : c.Bursts v 1 (c.emit v).2 where
  sink := by
    rw [emit_eq, List.replicate_one, List.flatten_singleton]
  emitted := by
    rw [emit_eq, wholeLines_one]
    cases c.sink.fits v <;> simp [Trace.emitted_observe, Sighting.emission?]

end Context

theorem Sighting.filterMap_emitted (callers : List String) (v : Value) :
    (callers.map (Sighting.emitted · v)).filterMap emission? = List.replicate callers.length v := by
  induction callers with
  | nil => rfl
  | cons caller rest ih =>
      rw [List.map_cons, List.filterMap_cons, ih, List.length_cons, List.replicate_succ]
      rfl

theorem Program.run_bursts (capture : Value) (arguments : List Value) (c : Context) :
    c.Bursts capture (arguments.length + 1) (run capture arguments c).2 where
  sink := by
    rw [(run_grows capture arguments c).sink, growth_bytes]
  emitted := by
    have whole := wholeLines_eq capture arguments.length c
    have most := c.sink.wholeLines_le capture.lineBytes.length (arguments.length + 1)
    rw [(run_grows capture arguments c).emitted, growth, whole]
    simp only [List.filterMap_append, Sighting.filterMap_emitted, List.length_take, List.length_cons,
      List.length_replicate, Nat.min_eq_left most]
    rfl

theorem Program.factoryOnly_bursts (capture : Value) (c : Context) :
    c.Bursts capture 1 (factoryOnly capture c).2 := by
  have call := ((Aggregate.next c).factory.invoke_grows capture (Aggregate.make c).2).bursts
  rw [factoryOnly_eq]
  exact ⟨call.sink, call.emitted⟩

namespace Session

def emission? (s : Session) : Operation → Option Value
  | .callFactory i argument => s.aggregates[i]?.bind fun _ => s.value? argument
  | .invokeFactory i argument => s.factories[i]?.bind fun _ => s.value? argument
  | .invokeClosure i argument =>
    s.closures[i]?.bind fun f => (s.value? argument).map fun _ => f.captured
  | .runProgram capture arguments =>
    (s.value? capture).bind fun v => (arguments.mapM s.value?).map fun _ => v
  | .runFactoryOnly capture => s.value? capture
  | .emit value => s.value? value
  | _ => none

def Emits (s : Session) (v : Value) (answer : Outcome × Session) : Prop :=
  ∃ count, s.context.Bursts v (count + 1) answer.2.context ∧
    (answer.1.fails = true ↔
      s.context.sink.wholeLines v.lineBytes.length (count + 1) ≠ count + 1)

theorem emits_keepClosure {s : Session} {v : Value} {answer : Except Fault Closure × Context}
    {count : Nat} (bursts : s.context.Bursts v (count + 1) answer.2)
    (result : answer.1.isOk = true ↔
      s.context.sink.wholeLines v.lineBytes.length (count + 1) = count + 1) :
    s.Emits v (s.keepClosure answer) := by
  refine ⟨count, ?_, ?_⟩
  · rw [context_keepClosure]
    exact bursts
  · rw [fails_keepClosure, Ne, ← result, Bool.not_eq_true']
    simp

theorem emits_settle {s : Session} {v : Value} {answer : Except Fault Unit × Context}
    (bursts : s.context.Bursts v 1 answer.2) (result : answer.1.isOk = s.context.sink.fits v) :
    s.Emits v (s.settle answer) := by
  refine ⟨0, ?_, ?_⟩
  · rw [context_settle]
    exact bursts
  · rw [fails_settle, result, Context.wholeLines_one]
    cases s.context.sink.fits v <;> simp

theorem perform_of_emission {s : Session} {operation : Operation} {v : Value}
    (emits : s.emission? operation = some v) :
    ∃ answer, s.perform operation = some answer ∧ s.Emits v answer := by
  have single (result : Except Fault Closure)
      (same : result.isOk = s.context.sink.fits v) : result.isOk = true ↔
        s.context.sink.wholeLines v.lineBytes.length (0 + 1) = 0 + 1 := by
    rw [same, Context.wholeLines_one]
    cases s.context.sink.fits v <;> simp
  cases operation with
  | callFactory i argument =>
      obtain ⟨a, found, given⟩ := Option.bind_eq_some_iff.mp emits
      refine ⟨s.keepClosure (a.callFactory v s.context), by simp [perform, found, given], ?_⟩
      apply emits_keepClosure (a.factory.invoke_grows v s.context).bursts
      apply single
      rw [Factory.invoke_fst]
      cases s.context.sink.fits v <;> rfl
  | invokeFactory i argument =>
      obtain ⟨f, found, given⟩ := Option.bind_eq_some_iff.mp emits
      refine ⟨s.keepClosure (f.invoke v s.context), by simp [perform, found, given], ?_⟩
      apply emits_keepClosure (f.invoke_grows v s.context).bursts
      apply single
      rw [Factory.invoke_fst]
      cases s.context.sink.fits v <;> rfl
  | invokeClosure i argument =>
      obtain ⟨f, found, captured⟩ := Option.bind_eq_some_iff.mp emits
      obtain ⟨w, given, rfl⟩ := Option.map_eq_some_iff.mp captured
      refine ⟨s.keepClosure (f.invoke w s.context), by simp [perform, found, given], ?_⟩
      apply emits_keepClosure (f.invoke_grows w s.context).bursts
      apply single
      rw [Closure.invoke_fst]
      cases s.context.sink.fits f.captured <;> rfl
  | runProgram capture arguments =>
      obtain ⟨w, given, captured⟩ := Option.bind_eq_some_iff.mp emits
      obtain ⟨values, all, rfl⟩ := Option.map_eq_some_iff.mp captured
      refine ⟨s.keepClosure (Program.run w values s.context), by simp [perform, given, all], ?_⟩
      apply emits_keepClosure (Program.run_bursts w values s.context)
      rw [Program.run_fst, Program.wholeLines_eq]
      split <;> simp_all [Except.isOk, Except.toBool]
  | runFactoryOnly capture =>
      refine ⟨s.settle (Program.factoryOnly v s.context), ?_, ?_⟩
      · simp only [emission?] at emits
        simp [perform, emits]
      · apply emits_settle (Program.factoryOnly_bursts v s.context)
        rw [Program.factoryOnly_eq, Factory.invoke_fst]
        change _ = (Aggregate.make s.context).2.sink.fits v
        cases (Aggregate.make s.context).2.sink.fits v <;> rfl
  | emit value =>
      refine ⟨s.settle (s.context.emit v), ?_, ?_⟩
      · simp only [emission?] at emits
        simp [perform, emits]
      · apply emits_settle (s.context.emit_bursts v)
        rw [Context.emit_eq]
        cases s.context.sink.fits v <;> rfl
  | _ => simp [emission?] at emits

def Silent (c d : Context) : Prop := d.sink = c.sink ∧ d.trace.emitted = c.trace.emitted

theorem silent_callProbe (a : Aggregate) (form : CallForm) (c : Context) :
    Silent c (a.callProbe form c).2 := by
  have grows := a.callProbe_grows form c
  exact ⟨grows.sink.trans (Sink.append_nil _), grows.emitted.trans (List.append_nil _)⟩

theorem silent_leave (c : Context) : Silent c c.leave := by
  unfold Context.leave
  split <;> exact ⟨rfl, rfl⟩

theorem step_of_no_emission {s : Session} {operation : Operation}
    (quiet : s.emission? operation = none) : Silent s.context (s.step operation).context := by
  rcases s.step_cases operation with same | ⟨outcome, performed⟩
  · rw [same]
    exact ⟨rfl, rfl⟩
  · generalize s.step operation = next at performed ⊢
    cases operation with
    | newObject name => cases performed; exact ⟨rfl, rfl⟩
    | newFunction name => cases performed; exact ⟨rfl, rfl⟩
    | newClosureFunction => cases performed; exact ⟨rfl, rfl⟩
    | newFactory func =>
        obtain ⟨f, -, answer⟩ := Option.map_eq_some_iff.mp performed
        cases answer
        exact ⟨rfl, rfl⟩
    | newAggregate => cases performed; exact ⟨rfl, rfl⟩
    | probeImplicit i =>
        obtain ⟨a, -, answer⟩ := Option.bind_eq_some_iff.mp performed
        cases answer
        exact silent_callProbe a _ s.context
    | probeExplicit i receiver =>
        obtain ⟨a, -, rest⟩ := Option.bind_eq_some_iff.mp performed
        obtain ⟨v, -, answer⟩ := Option.bind_eq_some_iff.mp rest
        cases answer
        exact silent_callProbe a _ s.context
    | probeThrough i base =>
        obtain ⟨a, -, rest⟩ := Option.bind_eq_some_iff.mp performed
        obtain ⟨v, -, answer⟩ := Option.bind_eq_some_iff.mp rest
        cases answer
        exact silent_callProbe a _ s.context
    | enter func callType =>
        obtain ⟨f, -, answer⟩ := Option.map_eq_some_iff.mp performed
        cases answer
        exact ⟨rfl, rfl⟩
    | leave =>
        cases performed
        exact silent_leave s.context
    | observeReceiver callType receiver =>
        obtain ⟨v, -, answer⟩ := Option.bind_eq_some_iff.mp performed
        cases answer
        exact ⟨rfl, Trace.emitted_pushReceiver _ _ _⟩
    | flush =>
        have same := congrArg (fun answer => answer.map (·.2.context)) performed
        simp only [perform, Option.map_some, context_settle, Option.some.injEq] at same
        rw [← same]
        exact ⟨rfl, rfl⟩
    | callFactory i argument =>
        obtain ⟨a, found, rest⟩ := Option.bind_eq_some_iff.mp performed
        obtain ⟨v, given, -⟩ := Option.bind_eq_some_iff.mp rest
        simp [emission?, found, given] at quiet
    | invokeFactory i argument =>
        obtain ⟨f, found, rest⟩ := Option.bind_eq_some_iff.mp performed
        obtain ⟨v, given, -⟩ := Option.bind_eq_some_iff.mp rest
        simp [emission?, found, given] at quiet
    | invokeClosure i argument =>
        obtain ⟨f, found, rest⟩ := Option.bind_eq_some_iff.mp performed
        obtain ⟨v, given, -⟩ := Option.bind_eq_some_iff.mp rest
        simp [emission?, found, given] at quiet
    | runProgram capture arguments =>
        obtain ⟨v, given, rest⟩ := Option.bind_eq_some_iff.mp performed
        obtain ⟨values, all, -⟩ := Option.bind_eq_some_iff.mp rest
        simp [emission?, given, all] at quiet
    | runFactoryOnly capture =>
        obtain ⟨v, given, -⟩ := Option.bind_eq_some_iff.mp performed
        simp [emission?, given] at quiet
    | emit value =>
        obtain ⟨v, given, -⟩ := Option.bind_eq_some_iff.mp performed
        simp [emission?, given] at quiet

def failedEmission? (s : Session) (operation : Operation) : Option Value :=
  match s.perform operation with
  | some (.failed _, _) => s.emission? operation
  | _ => none

def failedEmissions (s : Session) : List Operation → List Value
  | [] => []
  | operation :: rest =>
    (s.failedEmission? operation).toList ++ (s.step operation).failedEmissions rest

/-- What was written is the lines of the emitted values and a remainder. There is none before an
emission failed; after that it is a piece of the line of the first that did, and the sink is full. -/
def Told (c : Context) (failed : Option Value) : Prop :=
  ∃ remainder, c.sink.written = c.trace.emitted.flatMap Value.lineBytes ++ remainder ∧
    match failed with
    | none => remainder = []
    | some first => remainder <+: first.lineBytes ∧ remainder ≠ first.lineBytes ∧ c.sink.Full

theorem told_silent {c d : Context} {failed : Option Value} (silent : Silent c d)
    (told : Told c failed) : Told d failed := by
  unfold Told at *
  rw [silent.1, silent.2]
  exact told

theorem told_bursts {c d : Context} {v : Value} {count : Nat} (bounded : c.sink.Bounded)
    (told : Told c none) (bursts : c.Bursts v count d) :
    Told d (if c.sink.wholeLines v.lineBytes.length count = count then none else some v) := by
  obtain ⟨_, written, rfl⟩ := told
  obtain ⟨rest, lines, state⟩ := c.sink.part_lines bounded v count
  refine ⟨rest, ?_, ?_⟩
  · rw [bursts.sink, bursts.emitted, Sink.written_append, written, lines, List.flatMap_append,
      List.flatMap_replicate, List.append_nil, List.append_assoc]
  · by_cases all : c.sink.wholeLines v.lineBytes.length count = count
    · rw [if_pos all] at state ⊢
      exact state
    · rw [if_neg all] at state ⊢
      rw [← bursts.sink] at state
      exact state

theorem silent_of_full {c d : Context} {v : Value} {count : Nat} (full : c.sink.Full)
    (bursts : c.Bursts v count d) :
    Silent c d ∧ c.sink.wholeLines v.lineBytes.length count = 0 := by
  have none_ := Sink.wholeLines_of_not_fits (Sink.not_fits_of_full (Sink.room_of_full full) v) count
  refine ⟨⟨?_, ?_⟩, none_⟩
  · rw [bursts.sink, Sink.part, Sink.room_of_full full, List.take_zero, Sink.append_nil]
  · rw [bursts.emitted, none_, List.replicate_zero, List.append_nil]

theorem failedEmission?_of_quiet {s : Session} {operation : Operation}
    (quiet : s.emission? operation = none) : s.failedEmission? operation = none := by
  unfold failedEmission?
  split
  · exact quiet
  · rfl

theorem failedEmission?_of_emission {s : Session} {operation : Operation} {v : Value}
    {answer : Outcome × Session} (emits : s.emission? operation = some v)
    (performed : s.perform operation = some answer) :
    s.failedEmission? operation = if answer.1.fails then some v else none := by
  obtain ⟨outcome, next⟩ := answer
  rw [failedEmission?, performed]
  cases outcome <;> first | rfl | exact emits

theorem step_bounded {s : Session} (bounded : s.context.sink.Bounded) (operation : Operation) :
    (s.step operation).context.sink.Bounded := by
  cases emits : s.emission? operation with
  | none =>
      rw [(step_of_no_emission emits).1]
      exact bounded
  | some v =>
      obtain ⟨answer, performed, count, bursts, -⟩ := perform_of_emission emits
      rw [step_of_performed performed, bursts.sink]
      exact Sink.bounded_part bounded _

theorem limit_step (s : Session) (operation : Operation) :
    (s.step operation).context.sink.limit = s.context.sink.limit := by
  cases emits : s.emission? operation with
  | none => rw [(step_of_no_emission emits).1]
  | some v =>
      obtain ⟨answer, performed, count, bursts, -⟩ := perform_of_emission emits
      rw [step_of_performed performed, bursts.sink, Sink.limit_append]

theorem limit_runAll (operations : List Operation) (s : Session) :
    (s.runAll operations).context.sink.limit = s.context.sink.limit := by
  induction operations generalizing s with
  | nil => rfl
  | cons operation rest ih => exact (ih (s.step operation)).trans (s.limit_step operation)

theorem step_told {s : Session} {failed : Option Value} (bounded : s.context.sink.Bounded)
    (told : Told s.context failed) (operation : Operation) :
    Told (s.step operation).context (failed.or (s.failedEmission? operation)) := by
  cases emits : s.emission? operation with
  | none =>
      rw [failedEmission?_of_quiet emits, Option.or_none]
      exact told_silent (step_of_no_emission emits) told
  | some v =>
      obtain ⟨answer, performed, count, bursts, fails⟩ := perform_of_emission emits
      rw [step_of_performed performed, failedEmission?_of_emission emits performed]
      -- before the first failure a burst may be cut; after it the sink is full
      cases failed with
      | none =>
          have next := told_bursts bounded told bursts
          rw [Option.none_or]
          by_cases cut : answer.1.fails = true
          · rw [if_neg (fails.mp cut)] at next
            rw [if_pos cut]
            exact next
          · rw [if_pos (Classical.byContradiction fun all => cut (fails.mpr all))] at next
            rw [if_neg cut]
            exact next
      | some first =>
          have full : s.context.sink.Full := told.choose_spec.2.2.2
          exact told_silent (silent_of_full full bursts).1 told

theorem runAll_told (operations : List Operation) {s : Session} {failed : Option Value}
    (bounded : s.context.sink.Bounded) (told : Told s.context failed) :
    Told (s.runAll operations).context (failed.or (s.failedEmissions operations).head?) := by
  induction operations generalizing s failed with
  | nil =>
      rw [failedEmissions, List.head?_nil, Option.or_none]
      exact told
  | cons operation rest ih =>
      have tail := ih (step_bounded bounded operation) (step_told bounded told operation)
      have first : (s.failedEmission? operation).toList.head? = s.failedEmission? operation := by
        cases s.failedEmission? operation <;> rfl
      rw [failedEmissions, List.head?_append, first, ← Option.or_assoc]
      exact tail

theorem runAll_of_full (operations : List Operation) {s : Session} (full : s.context.sink.Full) :
    Silent s.context (s.runAll operations).context := by
  induction operations generalizing s with
  | nil => exact ⟨rfl, rfl⟩
  | cons operation rest ih =>
      have step : Silent s.context (s.step operation).context := by
        cases emits : s.emission? operation with
        | none => exact step_of_no_emission emits
        | some v =>
            obtain ⟨answer, performed, count, bursts, -⟩ := perform_of_emission emits
            rw [step_of_performed performed]
            exact (silent_of_full full bursts).1
      have still : (s.step operation).context.sink.Full := by
        rw [step.1]
        exact full
      have tail := ih still
      exact ⟨tail.1.trans step.1, tail.2.trans step.2⟩

theorem fails_of_full {s : Session} {operation : Operation} {v : Value}
    (full : s.context.sink.Full) (emits : s.emission? operation = some v) :
    ∃ fault next, s.perform operation = some (.failed fault, next) := by
  obtain ⟨⟨outcome, next⟩, performed, count, bursts, fails⟩ := perform_of_emission emits
  have cut : outcome.fails = true := by
    rw [fails, (silent_of_full full bursts).2]
    omega
  obtain ⟨fault, rfl⟩ := outcome.fails_iff.mp cut
  exact ⟨fault, next, performed⟩

/-- After any operations on a sink that was empty, the output is the lines of the emitted values and a
remainder. It is empty as long as no emission failed. After that it is a piece of the line of the first
that failed, the sink is full to its limit, every later emission fails and none is observed. -/
theorem output_equals_trace (mode : Mode) (sink : Sink) (operations : List Operation) :
    let start := fresh mode { sink with written := [] }
    let s := start.runAll operations
    ∃ remainder,
      s.context.sink.written = s.context.trace.emitted.flatMap Value.lineBytes ++ remainder ∧
      (start.failedEmissions operations = [] → remainder = []) ∧
      ∀ first, (start.failedEmissions operations).head? = some first →
        remainder <+: first.lineBytes ∧ remainder ≠ first.lineBytes ∧
        sink.limit = some s.context.sink.written.length ∧
        ∀ later, (s.runAll later).context.trace.emitted = s.context.trace.emitted ∧
          ∀ operation v, (s.runAll later).emission? operation = some v →
            ∃ fault next, (s.runAll later).perform operation = some (.failed fault, next) := by
  intro start s
  have bounded : start.context.sink.Bounded := fun limit _ => Nat.zero_le limit
  have silent : Told start.context none := ⟨[], rfl, rfl⟩
  have told := runAll_told operations bounded silent
  rw [Option.none_or] at told
  obtain ⟨remainder, written, state⟩ := told
  refine ⟨remainder, written, ?_, ?_⟩
  · intro unfailed
    rw [unfailed] at state
    exact state
  · intro first head
    rw [head] at state
    obtain ⟨piece, proper, full⟩ := state
    refine ⟨piece, proper, (limit_runAll operations start).symm.trans full, ?_⟩
    intro later
    have silent := runAll_of_full later full
    refine ⟨silent.2, ?_⟩
    intro operation v emits
    apply fails_of_full _ emits
    rw [silent.1]
    exact full

end Session
end CaptureProbe
