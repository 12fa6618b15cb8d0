import CaptureProbe.Proofs.Invocation

/-!
The program in closed form. A run is two probe calls, one call of the factory and one call of the
closure for each argument, up to the first line that does not fit. All lines of a run are equal, so
how far it gets is a quotient: the room left in the sink by the length of one line.
-/

namespace CaptureProbe

@[simp] theorem Growth.append_def (g h : Growth) :
    g ++ h = ⟨g.calls ++ h.calls, g.sightings ++ h.sightings, g.bytes ++ h.bytes,
      g.objects + h.objects, g.functions + h.functions⟩ := rfl

/-- What `count` calls of a closure from one function add. A call whose line is cut is the last. -/
def Growth.repeated (sink : Sink) (current : FuncRef) (f : Closure) (count : Nat) : Growth :=
  let whole := sink.wholeLines f.captured.lineBytes.length count
  { calls := (List.replicate (min count (whole + 1))
      [⟨current, f.func, .closure⟩, ⟨f.func, f.factory.func, .direct⟩]).flatten
    sightings := List.replicate whole (.emitted f.func.name f.captured)
    bytes := sink.part (List.replicate count f.captured.lineBytes).flatten
    functions := whole }

namespace Program

theorem repeated_of_fits {sink : Sink} {f : Closure} (fits : sink.fits f.captured = true)
    (current : FuncRef) (count : Nat) :
    Growth.emission sink [⟨current, f.func, .closure⟩, ⟨f.func, f.factory.func, .direct⟩] f.func
        f.captured ++
      Growth.repeated (sink.append f.captured.lineBytes) current f count =
    Growth.repeated sink current f (count + 1) := by
  have room := (sink.fits_iff f.captured).mp fits
  simp only [Growth.append_def, Growth.emission, Growth.repeated, fits, if_true,
    Sink.wholeLines_of_fits fits, Sink.part_of_fits fits, Growth.mk.injEq, true_and]
  refine ⟨?_, ?_, ?_, ?_⟩
  · rw [Nat.add_min_add_right, List.replicate_succ, List.flatten_cons]
  · rw [List.replicate_succ, List.singleton_append]
  · rw [List.replicate_succ, List.flatten_cons, Sink.part_append_of_fits _ room]
  · exact Nat.add_comm _ _

theorem repeated_of_not_fits {sink : Sink} {f : Closure} (fits : sink.fits f.captured = false)
    (current : FuncRef) (count : Nat) :
    Growth.emission sink [⟨current, f.func, .closure⟩, ⟨f.func, f.factory.func, .direct⟩] f.func
        f.captured =
    Growth.repeated sink current f (count + 1) := by
  have once : min (count + 1) (0 + 1) = 1 := by omega
  simp only [Growth.emission, Growth.repeated, fits, Sink.wholeLines_of_not_fits fits, once]
  rw [List.replicate_succ, List.replicate_succ, List.flatten_cons, List.flatten_cons,
    Sink.part_append_of_cut _ (Sink.cut_of_not_fits fits)]
  rfl

theorem invokeEach_cons_of_fits {f : Closure} {c : Context} (fits : c.sink.fits f.captured = true)
    (argument : Value) (rest : List Value) :
    invokeEach f (argument :: rest) c = invokeEach f rest (f.invoke argument c).2 := by
  have result := f.invoke_fst argument c
  rw [if_pos fits] at result
  rw [invokeEach]
  generalize f.invoke argument c = answer at result ⊢
  obtain ⟨outcome, after⟩ := answer
  cases result
  rfl

theorem invokeEach_cons_of_not_fits {f : Closure} {c : Context}
    (fits : c.sink.fits f.captured = false) (argument : Value) (rest : List Value) :
    invokeEach f (argument :: rest) c =
      (.error (c.sink.overflow .stalled), (f.invoke argument c).2) := by
  have result := f.invoke_fst argument c
  rw [fits] at result
  rw [invokeEach]
  generalize f.invoke argument c = answer at result ⊢
  obtain ⟨outcome, after⟩ := answer
  cases result
  rfl

theorem invokeEach_fst (f : Closure) (arguments : List Value) (c : Context) :
    (invokeEach f arguments c).1 =
      if c.sink.wholeLines f.captured.lineBytes.length arguments.length = arguments.length
      then .ok () else .error (c.sink.overflow .stalled) := by
  induction arguments generalizing c with
  | nil => simp [invokeEach]
  | cons argument rest ih =>
      cases fits : c.sink.fits f.captured with
      | true =>
          have sink := (f.invoke_grows argument c).sink_of_fits fits
          simp only [invokeEach_cons_of_fits fits, ih, sink, List.length_cons,
            Sink.wholeLines_of_fits fits, Sink.overflow_append, Nat.add_right_cancel_iff]
      | false =>
          simp [invokeEach_cons_of_not_fits fits, Sink.wholeLines_of_not_fits fits]

theorem invokeEach_grows (f : Closure) (arguments : List Value) (c : Context) :
    c.Grows (.repeated c.sink c.current f arguments.length) (invokeEach f arguments c).2 := by
  induction arguments generalizing c with
  | nil => simpa [invokeEach, Growth.repeated] using Context.Grows.refl c
  | cons argument rest ih =>
      have grows := f.invoke_grows argument c
      cases fits : c.sink.fits f.captured with
      | true =>
          have tail := ih (f.invoke argument c).2
          rw [grows.sink_of_fits fits, grows.current] at tail
          rw [invokeEach_cons_of_fits fits, List.length_cons, ← repeated_of_fits fits]
          exact grows.trans tail
      | false =>
          rw [invokeEach_cons_of_not_fits fits, List.length_cons, ← repeated_of_not_fits fits]
          exact grows

/-- The context in which a run calls the factory: an aggregate was made and its probe called in both
forms. -/
def prepared (c : Context) : Context :=
  let made := (Aggregate.make c).2
  let probed := ((Aggregate.next c).probeImplicit made).2
  let again := ((Aggregate.next c).probeExplicit probed.realm.ambient probed).2
  again.note .debug .program ("Implicit receiver: " ++ (Value.object (Aggregate.next c).holder).display
    ++ ", explicit receiver: " ++ probed.realm.ambient.display)

def preparation (c : Context) : Growth where
  calls := [⟨c.current, (Aggregate.next c).probe, .method⟩,
    ⟨c.current, (Aggregate.next c).probe, .explicit⟩]
  sightings := [.receiver .method (.object (Aggregate.next c).holder),
    .receiver .explicit c.realm.ambient]
  objects := 2
  functions := 2

theorem prepared_grows (c : Context) : c.Grows (preparation c) (prepared c) := by
  let made := (Aggregate.make c).2
  let probed := ((Aggregate.next c).probeImplicit made).2
  have first : c.Grows _ made := Aggregate.make_grows c
  have second : made.Grows _ probed := (Aggregate.next c).callProbe_grows (.implicit _) made
  have third := (Aggregate.next c).callProbe_grows (.explicit probed.realm.ambient) probed
  have all := (first.trans second).trans third
  rw [(first.trans second).current, (first.trans second).realm, first.current] at all
  exact all.noted _ _ _

theorem run_eq (capture : Value) (arguments : List Value) (c : Context) :
    run capture arguments c =
      match (Aggregate.next c).factory.invoke capture (prepared c) with
      | (.ok f, d) =>
        match invokeEach f arguments d with
        | (.ok (), d) => (.ok f, d)
        | (.error fault, d) => (.error fault, d)
      | (.error fault, d) => (.error fault, d) := rfl

def wholeLines (capture : Value) (count : Nat) (c : Context) : Nat :=
  c.sink.wholeLines ((Text.bytes capture.display).length + 1) (count + 1)

def closure (capture : Value) (c : Context) : Closure where
  func := ⟨c.nextFunction + 2, Context.closureName (c.nextFunction + 2)⟩
  captured := capture
  factory := (Aggregate.next c).factory

@[simp] theorem captured_closure (capture : Value) (c : Context) :
    (closure capture c).captured = capture := rfl

def growth (capture : Value) (count : Nat) (c : Context) : Growth :=
  let a := Aggregate.next c
  let f := closure capture c
  let whole := wholeLines capture count c
  { calls := [⟨c.current, a.probe, .method⟩, ⟨c.current, a.probe, .explicit⟩,
        ⟨c.current, a.factory.func, .direct⟩] ++
      (List.replicate (min count whole)
        [⟨c.current, f.func, .closure⟩, ⟨f.func, a.factory.func, .direct⟩]).flatten
    sightings := [.receiver .method (.object a.holder), .receiver .explicit c.realm.ambient] ++
      ((c.current.name :: List.replicate count f.func.name).take whole).map (.emitted · capture)
    bytes := (List.replicate (count + 1) capture.lineBytes).flatten.take
      (c.sink.room ((count + 1) * ((Text.bytes capture.display).length + 1)))
    objects := 2
    functions := 2 + whole }

theorem sink_prepared (c : Context) : (prepared c).sink = c.sink := by
  rw [(prepared_grows c).sink]
  exact Sink.append_nil _

theorem next_prepared (capture : Value) (c : Context) :
    (Aggregate.next c).factory.next capture (prepared c) = closure capture c := by
  rw [Factory.next, (prepared_grows c).nextFunction]
  rfl

def called (capture : Value) (c : Context) : Context :=
  ((Aggregate.next c).factory.invoke capture (prepared c)).2

theorem called_grows (capture : Value) (c : Context) :
    c.Grows (preparation c ++
      .emission c.sink [⟨c.current, (Aggregate.next c).factory.func, .direct⟩] c.current capture)
      (called capture c) := by
  have call := (Aggregate.next c).factory.invoke_grows capture (prepared c)
  rw [sink_prepared, (prepared_grows c).current] at call
  exact (prepared_grows c).trans call

theorem sink_called {capture : Value} {c : Context} (fits : c.sink.fits capture = true) :
    (called capture c).sink = c.sink.append capture.lineBytes := by
  rw [(called_grows capture c).sink, Growth.append_def, Growth.emission, Sink.part_of_fits fits]
  rfl

theorem called_fst (capture : Value) (c : Context) :
    ((Aggregate.next c).factory.invoke capture (prepared c)).1 =
      if c.sink.fits capture then .ok (closure capture c)
      else .error (c.sink.overflow .stalled) := by
  rw [Factory.invoke_fst, sink_prepared, next_prepared]

theorem run_of_fits {capture : Value} {c : Context} (fits : c.sink.fits capture = true)
    (arguments : List Value) :
    run capture arguments c =
      ((invokeEach (closure capture c) arguments (called capture c)).1.map fun _ => closure capture c,
        (invokeEach (closure capture c) arguments (called capture c)).2) := by
  have result := called_fst capture c
  rw [if_pos fits] at result
  rw [run_eq, called]
  generalize (Aggregate.next c).factory.invoke capture (prepared c) = answer at result ⊢
  obtain ⟨outcome, after⟩ := answer
  cases result
  simp only
  split <;> rename_i each <;> rw [each] <;> rfl

theorem run_of_not_fits {capture : Value} {c : Context} (fits : c.sink.fits capture = false)
    (arguments : List Value) :
    run capture arguments c = (.error (c.sink.overflow .stalled), called capture c) := by
  have result := called_fst capture c
  rw [fits] at result
  rw [run_eq, called]
  generalize (Aggregate.next c).factory.invoke capture (prepared c) = answer at result ⊢
  obtain ⟨outcome, after⟩ := answer
  cases result
  rfl

theorem growth_bytes (capture : Value) (count : Nat) (c : Context) :
    (growth capture count c).bytes =
      c.sink.part (List.replicate (count + 1) capture.lineBytes).flatten := by
  have total : (List.replicate (count + 1) capture.lineBytes).flatten.length =
      (count + 1) * ((Text.bytes capture.display).length + 1) := by
    rw [List.length_flatten, List.map_replicate, List.sum_replicate_nat, Value.length_lineBytes]
  rw [Sink.part, total]
  rfl

theorem wholeLines_eq (capture : Value) (count : Nat) (c : Context) :
    wholeLines capture count c = c.sink.wholeLines capture.lineBytes.length (count + 1) := by
  rw [wholeLines, Value.length_lineBytes]

theorem growth_of_fits {capture : Value} {c : Context} (fits : c.sink.fits capture = true)
    (count : Nat) :
    growth capture count c = preparation c ++
      Growth.emission c.sink [⟨c.current, (Aggregate.next c).factory.func, .direct⟩] c.current capture ++
      Growth.repeated (c.sink.append capture.lineBytes) c.current (closure capture c) count := by
  have room := (c.sink.fits_iff capture).mp fits
  have bytes := growth_bytes capture count c
  have whole := (wholeLines_eq capture count c).trans (Sink.wholeLines_of_fits fits count)
  have most := (c.sink.append capture.lineBytes).wholeLines_le capture.lineBytes.length count
  rw [List.replicate_succ, List.flatten_cons, Sink.part_append_of_fits _ room] at bytes
  rw [growth] at bytes ⊢
  simp only at bytes
  simp only [bytes, whole, Growth.append_def, Growth.emission, Growth.repeated, preparation, fits,
    if_true, Sink.part_of_fits fits, closure]
  rw [List.take_succ_cons, List.take_replicate, Nat.min_eq_left most]
  simp only [List.map_cons, List.map_replicate, List.cons_append, List.nil_append, Growth.mk.injEq,
    true_and]
  omega

theorem growth_of_not_fits {capture : Value} {c : Context} (fits : c.sink.fits capture = false)
    (count : Nat) :
    growth capture count c = preparation c ++
      Growth.emission c.sink [⟨c.current, (Aggregate.next c).factory.func, .direct⟩] c.current
        capture := by
  have bytes := growth_bytes capture count c
  have whole := (wholeLines_eq capture count c).trans (Sink.wholeLines_of_not_fits fits _)
  rw [List.replicate_succ, List.flatten_cons,
    Sink.part_append_of_cut _ (Sink.cut_of_not_fits fits)] at bytes
  rw [growth] at bytes ⊢
  simp only at bytes
  simp [bytes, whole, Growth.emission, preparation, fits]

theorem run_fst (capture : Value) (arguments : List Value) (c : Context) :
    (run capture arguments c).1 =
      if wholeLines capture arguments.length c = arguments.length + 1
      then .ok (closure capture c) else .error (c.sink.overflow .stalled) := by
  rw [wholeLines_eq]
  cases fits : c.sink.fits capture with
  | true =>
      rw [run_of_fits fits, invokeEach_fst, sink_called fits, Sink.wholeLines_of_fits fits]
      by_cases all : (c.sink.append capture.lineBytes).wholeLines capture.lineBytes.length
          arguments.length = arguments.length
      · simp [all, Except.map]
      · simp [all, Except.map]
  | false =>
      rw [run_of_not_fits fits, Sink.wholeLines_of_not_fits fits]
      rfl

theorem run_grows (capture : Value) (arguments : List Value) (c : Context) :
    c.Grows (growth capture arguments.length c) (run capture arguments c).2 := by
  have call := called_grows capture c
  cases fits : c.sink.fits capture with
  | true =>
      have each := invokeEach_grows (closure capture c) arguments (called capture c)
      rw [sink_called fits, call.current] at each
      rw [run_of_fits fits, growth_of_fits fits]
      exact call.trans each
  | false =>
      rw [run_of_not_fits fits, growth_of_not_fits fits]
      exact call

/-- The program in closed form, from any context and into any sink. With `k` the number of its lines
that fit whole, a run succeeds if and only if that is all of them; the sink takes what it has room for
of the lines as one text; the trace gains the two receivers and `k` emissions; and the graph gains the
probe calls, the factory call and the closure calls up to the first that fails. -/
theorem run_closed_form (capture : Value) (arguments : List Value) (c : Context) :
    let m := arguments.length
    let length := (Text.bytes capture.display).length + 1
    let k := c.sink.wholeLines length (m + 1)
    let probe : FuncRef := ⟨c.nextFunction, "probe"⟩
    let factory : FuncRef := ⟨c.nextFunction + 1, "factory"⟩
    let f : FuncRef := ⟨c.nextFunction + 2, Context.closureName (c.nextFunction + 2)⟩
    let calls : List Call :=
      [⟨c.current, probe, .method⟩, ⟨c.current, probe, .explicit⟩, ⟨c.current, factory, .direct⟩] ++
        (List.replicate (min m k) [⟨c.current, f, .closure⟩, ⟨f, factory, .direct⟩]).flatten
    let sightings : List Sighting :=
      [.receiver .method (.object ⟨c.nextObject + 1, "probe"⟩), .receiver .explicit c.realm.ambient] ++
        ((c.current.name :: List.replicate m f.name).take k).map (.emitted · capture)
    let after := (run capture arguments c).2
    (run capture arguments c).1 =
        (if k = m + 1 then .ok ⟨f, capture, ⟨factory⟩⟩ else .error (c.sink.overflow .stalled)) ∧
      after.sink = c.sink.append
        ((List.replicate (m + 1) capture.lineBytes).flatten.take (c.sink.room ((m + 1) * length))) ∧
      after.trace.observations = c.trace.observations ++
        sightings.mapIdx (fun i sighting => sighting.observation (c.trace.length + i)) ∧
      after.graph.edges = c.graph.edges ++ calls.mapIdx (fun i call => call.edge (c.nextSite + i)) ∧
      after.graph.nodes = ((CallGraph.mentions calls).foldl CallGraph.addNode c.graph).nodes ∧
      after.calls = c.calls ∧ after.realm = c.realm ∧
      after.nextObject = c.nextObject + 2 ∧ after.nextFunction = c.nextFunction + (2 + k) ∧
      after.nextSite = c.nextSite + calls.length := by
  intro m length k probe factory f calls sightings after
  have grows := run_grows capture arguments c
  refine ⟨run_fst capture arguments c, grows.sink, ?_, grows.edges, ?_, grows.calls, grows.realm,
    grows.nextObject, grows.nextFunction, grows.nextSite⟩
  · exact congrArg Trace.observations grows.trace
  · rw [← CallGraph.nodes_record c.graph c.nextSite]
    exact congrArg CallGraph.nodes grows.graph

end Program
end CaptureProbe
