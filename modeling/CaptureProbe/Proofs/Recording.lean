import CaptureProbe.Proofs.Chronicle
import CaptureProbe.Proofs.SessionStep

/-!
Contexts that hold the records of a chronicle: the call graph and the trace have the calls and the
sightings of its events, each in order and nothing else, and nothing is executing. Each call at the top
level adds its event; a run of the program adds one for each call that it makes.
-/

namespace CaptureProbe

structure Records (events : List Event) (c : Context) : Prop where
  valid : Chronicle.Valid events
  calls : c.calls = []
  graph : c.graph = (CallGraph.empty.addNode .top).record 0 (Chronicle.calls events)
  trace : c.trace = Trace.empty.observe (Chronicle.sightings events)
  nextFunction : c.nextFunction = Chronicle.nextId events
  nextSite : c.nextSite = (Chronicle.calls events).length
  full : (∃ event ∈ events, event.failed = true) → ∀ count, c.sink.room count = 0

namespace Records

variable {events : List Event} {event : Event} {c d : Context} {g : Growth}

theorem fresh (mode : Mode) (sink : Sink) : Records [] (Context.fresh mode sink) where
  valid := .start
  calls := rfl
  graph := rfl
  trace := rfl
  nextFunction := rfl
  nextSite := rfl
  full := by
    rintro ⟨event, member, -⟩
    cases member

theorem noted (records : Records events c) (level : Log.Level) (origin : Log.Origin)
    (message : String) : Records events (c.note level origin message) :=
  ⟨records.valid, records.calls, records.graph, records.trace, records.nextFunction, records.nextSite,
    records.full⟩

theorem current (records : Records events c) : c.current = .top := by
  rw [Context.current, records.calls]
  rfl

theorem extend (records : Records events c) (follows : Chronicle.Follows events event)
    (grows : c.Grows g d) (calls : g.calls = event.calls) (sightings : g.sightings = event.sightings)
    (functions : g.functions = event.functions.length)
    (full : event.failed = true → ∀ count, d.sink.room count = 0) :
    Records (events ++ [event]) d where
  valid := records.valid.next follows
  calls := grows.calls.trans records.calls
  graph := by
    rw [grows.graph, records.graph, records.nextSite, calls, Chronicle.calls_append,
      CallGraph.record_append, Nat.zero_add]
    simp [Chronicle.calls]
  trace := by
    rw [grows.trace, records.trace, sightings, Chronicle.sightings_append, Trace.observe_append]
    simp [Chronicle.sightings]
  nextFunction := by
    rw [grows.nextFunction, records.nextFunction, functions, Chronicle.nextId, Chronicle.nextId,
      Chronicle.given_append, List.length_append, Nat.add_assoc]
    simp [Chronicle.given]
  nextSite := by
    rw [grows.nextSite, records.nextSite, calls, Chronicle.calls_append, List.length_append]
    simp [Chronicle.calls]
  full := by
    rintro ⟨e, member, failed⟩
    rcases List.mem_append.mp member with earlier | now
    · intro count
      rw [grows.sink, Sink.room_append, records.full ⟨e, earlier, failed⟩, Nat.zero_sub]
    · rw [List.mem_singleton.mp now] at failed
      exact full failed

theorem make (records : Records events c) :
    Records (events ++ [.made (Aggregate.make c).1]) (Aggregate.make c).2 := by
  apply records.extend _ (Aggregate.make_grows c) rfl rfl rfl
  · intro failed
    cases failed
  · rw [Aggregate.make_fst, Chronicle.Follows, ← records.nextFunction]
    exact ⟨rfl, rfl⟩

theorem probe {a : Aggregate} (records : Records events c) (made : .made a ∈ events)
    (form : CallForm) : Records (events ++ [.probed a form]) (a.callProbe form c).2 := by
  have grows := a.callProbe_grows form c
  rw [records.current] at grows
  have follows : Chronicle.Follows events (.probed a form) := made
  apply records.extend follows grows rfl rfl rfl
  intro failed
  cases failed

theorem answers (records : Records events c) (factory : Factory) (n : Value) :
    Chronicle.Answers events factory n
      (if c.sink.fits n then .ok (factory.next n c) else .error (c.sink.overflow .stalled)) := by
  cases fits : c.sink.fits n with
  | false => trivial
  | true =>
      refine ⟨?_, ?_⟩
      · rw [Factory.next, records.nextFunction]
      · intro event member
        by_cases failed : event.failed = true
        · -- after a failure the sink has no room
          have full := Sink.not_fits_of_full (records.full ⟨event, member, failed⟩) n
          rw [fits] at full
          cases full
        · exact Bool.eq_false_iff.mpr failed

/-- A call that runs a factory body either emits and gives out a function, or leaves a full sink. -/
theorem emission {caller : FuncRef} {n : Value} (records : Records events c)
    (follows : Chronicle.Follows events event)
    (grows : c.Grows (.emission c.sink event.calls caller n) d)
    (answered : if c.sink.fits n
      then event.sightings = [.emitted caller.name n] ∧ event.functions.length = 1 ∧
        event.failed = false
      else event.sightings = [] ∧ event.functions.length = 0) :
    Records (events ++ [event]) d := by
  cases fits : c.sink.fits n with
  | true =>
      rw [if_pos fits] at answered
      obtain ⟨sightings, functions, unfailed⟩ := answered
      apply records.extend follows grows rfl
      · rw [sightings, Growth.emission, if_pos fits]
      · rw [functions, Growth.emission, fits]
        rfl
      · intro failed
        rw [unfailed] at failed
        cases failed
  | false =>
      rw [fits] at answered
      obtain ⟨sightings, functions⟩ := answered
      apply records.extend follows grows rfl
      · rw [sightings, Growth.emission, fits]
        rfl
      · rw [functions, Growth.emission, fits]
        rfl
      · intro failed count
        rw [grows.sink]
        exact Sink.room_of_cut (Sink.cut_of_not_fits fits) count

theorem call {a : Aggregate} (records : Records events c) (made : .made a ∈ events) (n : Value) :
    Records (events ++ [.called a n (a.callFactory n c).1]) (a.callFactory n c).2 := by
  have grows := a.factory.invoke_grows n c
  have result : (a.callFactory n c).1 = _ := a.factory.invoke_fst n c
  have answers := records.answers a.factory n
  rw [records.current] at grows
  rw [← result] at answers
  have follows : Chronicle.Follows events (.called a n (a.callFactory n c).1) := ⟨made, answers⟩
  apply records.emission follows grows
  rw [result]
  cases c.sink.fits n with
  | true => exact ⟨rfl, rfl, rfl⟩
  | false => exact ⟨rfl, rfl⟩

theorem invoke {f : Closure} (records : Records events c) (back : f ∈ Chronicle.returned events)
    (argument : Value) :
    Records (events ++ [.invoked f argument (f.invoke argument c).1]) (f.invoke argument c).2 := by
  have grows := f.invoke_grows argument c
  have result := f.invoke_fst argument c
  have answers := records.answers f.factory f.captured
  rw [records.current] at grows
  rw [← result] at answers
  have follows : Chronicle.Follows events (.invoked f argument (f.invoke argument c).1) :=
    ⟨back, answers⟩
  apply records.emission follows grows
  rw [result]
  cases c.sink.fits f.captured with
  | true => exact ⟨rfl, rfl, rfl⟩
  | false => exact ⟨rfl, rfl⟩

end Records

namespace Program

def invocations (f : Closure) : List Value → Context → List Event
  | [], _ => []
  | argument :: rest, c =>
    let (result, d) := f.invoke argument c
    .invoked f argument result ::
      match result with
      | .ok _ => invocations f rest d
      | .error _ => []

def preface (c : Context) : List Event :=
  let a := (Aggregate.make c).1
  [.made a, .probed a (.implicit (.object a.holder)), .probed a (.explicit c.realm.ambient)]

def events (capture : Value) (arguments : List Value) (c : Context) : List Event :=
  let a := (Aggregate.make c).1
  let (result, d) := a.callFactory capture (prepared c)
  preface c ++ .called a capture result ::
    match result with
    | .ok f => invocations f arguments d
    | .error _ => []

def factoryOnlyEvents (capture : Value) (c : Context) : List Event :=
  let (a, d) := Aggregate.make c
  [.made a, .called a capture (a.callFactory capture d).1]

theorem invocations_recorded (f : Closure) (arguments : List Value) {before : List Event}
    {c : Context} (records : Records before c) (back : f ∈ Chronicle.returned before) :
    Records (before ++ invocations f arguments c) (invokeEach f arguments c).2 := by
  induction arguments generalizing before c with
  | nil =>
      rw [invocations, List.append_nil]
      exact records
  | cons argument rest ih =>
      have next := records.invoke back argument
      rw [invocations, invokeEach]
      generalize f.invoke argument c = answer at next
      obtain ⟨result, d⟩ := answer
      cases result with
      | error fault => exact next
      | ok g =>
          have again : f ∈ Chronicle.returned (before ++ [.invoked f argument (.ok g)]) :=
            Chronicle.returned_mono (List.subset_append_left _ _) back
          -- the closure stays a returned one in the longer chronicle
          have tail := ih next again
          rw [List.append_assoc] at tail
          exact tail

theorem failed_invocations (f : Closure) (arguments : List Value) (c : Context) :
    (invocations f arguments c).countP Event.failed = (!(invokeEach f arguments c).1.isOk).toNat := by
  induction arguments generalizing c with
  | nil => rfl
  | cons argument rest ih =>
      rw [invocations, invokeEach]
      generalize f.invoke argument c = answer
      obtain ⟨result, d⟩ := answer
      cases result with
      | error fault => rfl
      | ok g => exact ih d

theorem prepared_recorded {before : List Event} {c : Context} (records : Records before c) :
    Records (before ++ preface c) (prepared c) := by
  have member : .made (Aggregate.next c) ∈ before ++ [.made (Aggregate.next c)] :=
    List.mem_append_right _ (List.mem_singleton_self _)
  have first := records.make.probe member (.implicit (.object (Aggregate.next c).holder))
  have second := first.probe (List.mem_append_left _ member) (.explicit c.realm.ambient)
  simp only [List.append_assoc] at second
  exact second.noted _ _ _

theorem events_eq (capture : Value) (arguments : List Value) (c : Context) :
    events capture arguments c =
      preface c ++ if c.sink.fits capture
        then .called (Aggregate.next c) capture (.ok (closure capture c)) ::
          invocations (closure capture c) arguments (called capture c)
        else [.called (Aggregate.next c) capture (.error (c.sink.overflow .stalled))] := by
  have unfolded : events capture arguments c =
      preface c ++ .called (Aggregate.next c) capture
          ((Aggregate.next c).factory.invoke capture (prepared c)).1 ::
        match ((Aggregate.next c).factory.invoke capture (prepared c)).1 with
        | .ok f => invocations f arguments (called capture c)
        | .error _ => [] := rfl
  rw [unfolded, called_fst]
  cases c.sink.fits capture <;> rfl

theorem run_recorded (capture : Value) (arguments : List Value) {before : List Event} {c : Context}
    (records : Records before c) :
    Records (before ++ events capture arguments c) (run capture arguments c).2 := by
  have made : .made (Aggregate.next c) ∈ before ++ preface c :=
    List.mem_append_right _ List.mem_cons_self
  have call := (prepared_recorded records).call made capture
  have result : ((Aggregate.next c).callFactory capture (prepared c)).1 = _ := called_fst capture c
  rw [result] at call
  rw [events_eq, ← List.append_assoc]
  cases fits : c.sink.fits capture with
  | true =>
      rw [if_pos fits] at call
      have back : closure capture c ∈ Chronicle.returned (before ++ preface c ++
          [.called (Aggregate.next c) capture (.ok (closure capture c))]) := by
        rw [Chronicle.returned_append]
        exact List.mem_append_right _ (List.mem_singleton_self _)
      have each := invocations_recorded (closure capture c) arguments call back
      rw [List.append_assoc, List.singleton_append] at each
      rw [run_of_fits fits]
      exact each
  | false =>
      rw [fits] at call
      rw [run_of_not_fits fits]
      exact call

theorem returned_events {capture : Value} {arguments : List Value} {c : Context} {f : Closure}
    (result : (run capture arguments c).1 = .ok f) :
    f ∈ Chronicle.returned (events capture arguments c) := by
  rw [events_eq, Chronicle.returned_append]
  apply List.mem_append_right
  cases fits : c.sink.fits capture with
  | true =>
      rw [run_of_fits fits] at result
      have same : f = closure capture c := by
        cases each : (invokeEach (closure capture c) arguments (called capture c)).1 with
        | error fault => simp [each, Except.map] at result
        | ok done => simpa [each, Except.map] using result.symm
      rw [same]
      exact List.mem_cons_self
  | false =>
      rw [run_of_not_fits fits] at result
      cases result

theorem failed_events (capture : Value) (arguments : List Value) (c : Context) :
    (events capture arguments c).countP Event.failed =
      (!(run capture arguments c).1.isOk).toNat := by
  have head : (preface c).countP Event.failed = 0 := rfl
  rw [events_eq, List.countP_append, head, Nat.zero_add]
  cases fits : c.sink.fits capture with
  | true =>
      rw [run_of_fits fits, if_pos rfl, List.countP_cons_of_neg (by simp [Event.failed]),
        failed_invocations]
      cases (invokeEach (closure capture c) arguments (called capture c)).1 <;> rfl
  | false =>
      rw [run_of_not_fits fits]
      rfl

theorem factoryOnly_recorded (capture : Value) {before : List Event} {c : Context}
    (records : Records before c) :
    Records (before ++ factoryOnlyEvents capture c) (factoryOnly capture c).2 := by
  have made : .made (Aggregate.next c) ∈ before ++ [.made (Aggregate.next c)] :=
    List.mem_append_right _ (List.mem_singleton_self _)
  have call := records.make.call made capture
  rw [List.append_assoc] at call
  rw [factoryOnly_eq]
  exact call

theorem failed_factoryOnlyEvents (capture : Value) (c : Context) :
    (factoryOnlyEvents capture c).countP Event.failed =
      (!(factoryOnly capture c).1.isOk).toNat := by
  have unfolded : factoryOnlyEvents capture c =
      [.made (Aggregate.next c), .called (Aggregate.next c) capture
        ((Aggregate.next c).factory.invoke capture (Aggregate.make c).2).1] := rfl
  rw [unfolded, factoryOnly_eq]
  cases ((Aggregate.next c).factory.invoke capture (Aggregate.make c).2).1 <;> rfl

end Program
end CaptureProbe
