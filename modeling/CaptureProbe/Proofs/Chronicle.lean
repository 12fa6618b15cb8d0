import Mathlib.Data.List.Nodup
import CaptureProbe.Proofs.ProgramRun

/-!
The chronicle of a session at the top level: the aggregates it made and the calls it made of probes,
factories and closures, with what they returned. A chronicle is valid if each event can follow the ones
before it: only what was made or returned is called, what is returned is new, and no call succeeds
after one failed. The validity of a chronicle says nothing about contexts; that sessions have one is
proved apart.
-/

namespace CaptureProbe

inductive Event where
  | made (a : Aggregate)
  | probed (a : Aggregate) (form : CallForm)
  | called (a : Aggregate) (n : Value) (result : Except Fault Closure)
  | invoked (f : Closure) (argument : Value) (result : Except Fault Closure)

namespace Event

def calls : Event → List Call
  | .made _ => []
  | .probed a form => [⟨.top, a.probe, form.callType⟩]
  | .called a _ _ => [⟨.top, a.factory.func, .direct⟩]
  | .invoked f _ _ => [⟨.top, f.func, .closure⟩, ⟨f.func, f.factory.func, .direct⟩]

def sightings : Event → List Sighting
  | .probed _ form => [.receiver form.callType form.receiver]
  | .called _ n (.ok _) => [.emitted FuncRef.top.name n]
  | .invoked f _ (.ok _) => [.emitted f.func.name f.captured]
  | _ => []

def returned? : Event → Option Closure
  | .called _ _ (.ok f) => some f
  | .invoked _ _ (.ok f) => some f
  | _ => none

def functions : Event → List FuncRef
  | .made a => [a.probe, a.factory.func]
  | .called _ _ (.ok f) => [f.func]
  | .invoked _ _ (.ok f) => [f.func]
  | _ => []

def failed : Event → Bool
  | .called _ _ (.error _) => true
  | .invoked _ _ (.error _) => true
  | _ => false

theorem functions_of_returned? {event : Event} {f : Closure} (back : event.returned? = some f) :
    event.functions = [f.func] := by
  unfold returned? at back
  split at back <;> cases back <;> rfl

end Event

namespace Chronicle

def given (events : List Event) : List FuncRef := events.flatMap Event.functions

def returned (events : List Event) : List Closure := events.filterMap Event.returned?

def calls (events : List Event) : List Call := events.flatMap Event.calls

def sightings (events : List Event) : List Sighting := events.flatMap Event.sightings

def nextId (events : List Event) : Nat := 1 + (given events).length

/-- What a factory may answer after some events: a closure over its argument with the next id, unless
a call failed before. -/
def Answers (events : List Event) (factory : Factory) (n : Value) : Except Fault Closure → Prop
  | .ok f => f = ⟨⟨nextId events, Context.closureName (nextId events)⟩, n, factory⟩ ∧
      ∀ event ∈ events, event.failed = false
  | .error _ => True

def Follows (events : List Event) : Event → Prop
  | .made a => a.probe = ⟨nextId events, "probe"⟩ ∧ a.factory.func = ⟨nextId events + 1, "factory"⟩
  | .probed a _ => .made a ∈ events
  | .called a n result => .made a ∈ events ∧ Answers events a.factory n result
  | .invoked f _ result => f ∈ returned events ∧ Answers events f.factory f.captured result

inductive Valid : List Event → Prop where
  | start : Valid []
  | next {events : List Event} {event : Event} (before : Valid events)
      (follows : Follows events event) : Valid (events ++ [event])

variable {events : List Event} {event : Event}

theorem given_append (events more : List Event) : given (events ++ more) = given events ++ given more :=
  List.flatMap_append

theorem returned_append (events more : List Event) :
    returned (events ++ more) = returned events ++ returned more :=
  List.filterMap_append

theorem calls_append (events more : List Event) : calls (events ++ more) = calls events ++ calls more :=
  List.flatMap_append

theorem sightings_append (events more : List Event) :
    sightings (events ++ more) = sightings events ++ sightings more :=
  List.flatMap_append

theorem mem_returned {f : Closure} :
    f ∈ returned events ↔ ∃ event ∈ events, event.returned? = some f :=
  List.mem_filterMap

theorem given_of_returned {f : Closure} (back : f ∈ returned events) : f.func ∈ given events := by
  obtain ⟨event, member, result⟩ := mem_returned.mp back
  apply List.mem_flatMap.mpr
  refine ⟨event, member, ?_⟩
  rw [Event.functions_of_returned? result]
  exact List.mem_singleton_self _

theorem probe_given {a : Aggregate} (made : .made a ∈ events) : a.probe ∈ given events :=
  List.mem_flatMap.mpr ⟨.made a, made, List.mem_cons_self⟩

theorem factory_given {a : Aggregate} (made : .made a ∈ events) : a.factory.func ∈ given events :=
  List.mem_flatMap.mpr ⟨.made a, made, List.mem_cons_of_mem _ List.mem_cons_self⟩

theorem Follows.returned {f : Closure} (follows : Follows events event)
    (back : event.returned? = some f) :
    f.func = ⟨nextId events, Context.closureName (nextId events)⟩ ∧
      ∀ event ∈ events, event.failed = false := by
  unfold Event.returned? at back
  split at back <;> cases back
  · obtain ⟨-, rfl, unfailed⟩ := follows
    exact ⟨rfl, unfailed⟩
  · obtain ⟨-, rfl, unfailed⟩ := follows
    exact ⟨rfl, unfailed⟩

theorem Valid.ids_given (valid : Valid events) :
    (given events).map FuncRef.id = List.range' 1 (given events).length := by
  induction valid with
  | start => rfl
  | @next events event before follows ih =>
      have last : event.functions.map FuncRef.id =
          List.range' (nextId events) event.functions.length := by
        cases event with
        | made a =>
            obtain ⟨probe, factory⟩ := follows
            simp [Event.functions, probe, factory, List.range']
        | probed a form => rfl
        | called a n result =>
            cases result with
            | error fault => rfl
            | ok f =>
                obtain ⟨-, rfl, -⟩ := follows
                rfl
        | invoked g argument result =>
            cases result with
            | error fault => rfl
            | ok f =>
                obtain ⟨-, rfl, -⟩ := follows
                rfl
      have single : given [event] = event.functions := List.append_nil _
      rw [given_append, single, List.map_append, ih, last, nextId, List.length_append,
        List.range'_append_1]

theorem Valid.given_unique (valid : Valid events) {f g : FuncRef} (first : f ∈ given events)
    (second : g ∈ given events) (same : f.id = g.id) : f = g := by
  have nodup : ((given events).map FuncRef.id).Nodup := by
    rw [valid.ids_given]
    exact List.nodup_range'
  exact List.inj_on_of_nodup_map nodup first second same

theorem Valid.given_ne_top (valid : Valid events) {f : FuncRef} (member : f ∈ given events) :
    f.id ≠ FuncRef.top.id := by
  have id := List.mem_map_of_mem (f := FuncRef.id) member
  rw [valid.ids_given, List.mem_range'_1] at id
  intro top
  rw [top] at id
  exact absurd id.1 (by decide)

theorem returned_sublist (events : List Event) :
    ((returned events).map Closure.func).Sublist (given events) := by
  induction events with
  | nil => exact List.Sublist.refl _
  | cons event rest ih =>
      cases back : event.returned? with
      | none =>
          have same : returned (event :: rest) = returned rest := List.filterMap_cons_none back
          rw [same]
          exact ih.trans (List.sublist_append_right _ _)
      | some f =>
          have more : returned (event :: rest) = f :: returned rest := List.filterMap_cons_some back
          have functions : given (event :: rest) = f.func :: given rest := by
            rw [given, List.flatMap_cons, Event.functions_of_returned? back]
            rfl
          rw [more, functions]
          exact ih.cons_cons _

theorem Valid.returned_unique (valid : Valid events) {f g : Closure} (first : f ∈ returned events)
    (second : g ∈ returned events) (same : f.func.id = g.func.id) : f = g := by
  have ids := (returned_sublist events).map FuncRef.id
  have nodup : (((returned events).map Closure.func).map FuncRef.id).Nodup := by
    apply List.Nodup.sublist ids
    rw [valid.ids_given]
    exact List.nodup_range'
  rw [List.map_map] at nodup
  exact List.inj_on_of_nodup_map nodup first second same

-- Every event followed a valid chronicle that the whole one begins with.
theorem Valid.follows_of_mem (valid : Valid events) (member : event ∈ events) :
    ∃ before, before ⊆ events ∧ Follows before event := by
  induction valid with
  | start => cases member
  | @next events last before follows ih =>
      rcases List.mem_append.mp member with earlier | now
      · obtain ⟨first, subset, follows⟩ := ih earlier
        exact ⟨first, fun e found => List.mem_append_left _ (subset found), follows⟩
      · rw [List.mem_singleton.mp now]
        exact ⟨events, fun e found => List.mem_append_left _ found, follows⟩

theorem returned_mono {before after : List Event} (subset : before ⊆ after) :
    returned before ⊆ returned after := by
  intro f back
  obtain ⟨event, member, result⟩ := mem_returned.mp back
  exact mem_returned.mpr ⟨event, subset member, result⟩

theorem Valid.made_of_probed (valid : Valid events) {a : Aggregate} {form : CallForm}
    (member : .probed a form ∈ events) : .made a ∈ events := by
  obtain ⟨before, subset, follows⟩ := valid.follows_of_mem member
  exact subset follows

theorem Valid.made_of_called (valid : Valid events) {a : Aggregate} {n : Value}
    {result : Except Fault Closure} (member : .called a n result ∈ events) : .made a ∈ events := by
  obtain ⟨before, subset, follows⟩ := valid.follows_of_mem member
  exact subset follows.1

theorem Valid.returned_of_invoked (valid : Valid events) {f : Closure} {argument : Value}
    {result : Except Fault Closure} (member : .invoked f argument result ∈ events) :
    f ∈ returned events := by
  obtain ⟨before, subset, follows⟩ := valid.follows_of_mem member
  exact returned_mono subset follows.1

theorem Valid.names_of_made (valid : Valid events) {a : Aggregate} (member : .made a ∈ events) :
    a.probe.name = "probe" ∧ a.factory.func.name = "factory" := by
  obtain ⟨before, -, probe, factory⟩ := valid.follows_of_mem member
  rw [probe, factory]
  exact ⟨rfl, rfl⟩

theorem Valid.name_of_returned (valid : Valid events) {f : Closure} (back : f ∈ returned events) :
    f.func.name = Context.closureName f.func.id := by
  obtain ⟨event, member, result⟩ := mem_returned.mp back
  obtain ⟨before, -, follows⟩ := valid.follows_of_mem member
  rw [(follows.returned result).1]

theorem closureName_ne (id : Nat) {name : String} (other : name.toList.head? ≠ some 'c') :
    Context.closureName id ≠ name := by
  -- the first letters differ already
  intro same
  apply other
  rw [← same, Context.closureName, String.toList_append]
  rfl

/-- A closure goes back to a factory call, directly or through calls of closures. -/
inductive Rooted (events : List Event) (a : Aggregate) (n : Value) : Closure → Prop where
  | factory {f : Closure} (called : .called a n (.ok f) ∈ events) : Rooted events a n f
  | closure {g f : Closure} {argument : Value} (parent : Rooted events a n g)
      (invoked : .invoked g argument (.ok f) ∈ events) : Rooted events a n f

theorem Rooted.mono {before after : List Event} {a : Aggregate} {n : Value} {f : Closure}
    (subset : before ⊆ after) (rooted : Rooted before a n f) : Rooted after a n f := by
  induction rooted with
  | factory called => exact .factory (subset called)
  | closure _ invoked ih => exact .closure ih (subset invoked)

/-- However long the chain of calls, the value and the factory at its root are kept. -/
theorem Rooted.kept {a : Aggregate} {n : Value} {f : Closure} (valid : Valid events)
    (rooted : Rooted events a n f) : f.captured = n ∧ f.factory = a.factory := by
  induction rooted with
  | factory called =>
      obtain ⟨before, -, -, rfl, -⟩ := valid.follows_of_mem called
      exact ⟨rfl, rfl⟩
  | closure _ invoked ih =>
      obtain ⟨before, -, -, rfl, -⟩ := valid.follows_of_mem invoked
      exact ih

theorem Rooted.made {a : Aggregate} {n : Value} {f : Closure} (valid : Valid events)
    (rooted : Rooted events a n f) : .made a ∈ events := by
  induction rooted with
  | factory called => exact valid.made_of_called called
  | closure _ _ ih => exact ih

theorem Valid.rooted (valid : Valid events) {f : Closure} (back : f ∈ returned events) :
    ∃ a n, Rooted events a n f := by
  induction valid generalizing f with
  | start => cases back
  | @next events event before follows ih =>
      have subset : events ⊆ events ++ [event] := fun e found => List.mem_append_left _ found
      have last : event ∈ events ++ [event] := List.mem_append_right _ (List.mem_singleton_self _)
      -- a closure that the last event returned has the root of the closure that was called
      rw [returned_append] at back
      rcases List.mem_append.mp back with earlier | now
      · obtain ⟨a, n, rooted⟩ := ih earlier
        exact ⟨a, n, rooted.mono subset⟩
      · obtain ⟨e, member, result⟩ := mem_returned.mp now
        rw [List.mem_singleton.mp member] at result
        unfold Event.returned? at result
        split at result <;> cases result
        · exact ⟨_, _, .factory last⟩
        · obtain ⟨a, n, rooted⟩ := ih follows.1
          exact ⟨a, n, .closure (rooted.mono subset) last⟩

end Chronicle
end CaptureProbe
