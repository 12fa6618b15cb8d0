import CaptureProbe.Proofs.DriverSession
import CaptureProbe.Proofs.RecordedGraph

/-!
The call graph and the trace of a driver session agree index by index, although calls are recorded
before a body runs and emissions only after their line was written. Each event of the chronicle adds
as many receivers as probe calls, and a direct call for each emission; only a call that fails adds a
direct call without an emission, and no emission comes after one.
-/

namespace CaptureProbe

def Observation.emitter? : Observation → Option String
  | .emitted _ caller _ => some caller
  | .receiver _ _ _ => none

def Observation.receiverType? : Observation → Option CallType
  | .emitted _ _ _ => none
  | .receiver _ callType _ => some callType

def CallType.receiverType? : CallType → Option CallType
  | .method => some .method
  | .explicit => some .explicit
  | _ => none

namespace Chronicle

variable {events : List Event}

/-- The factory that a closure was made by: the one that was called when the closure was returned. -/
inductive MadeBy (events : List Event) : Factory → Closure → Prop where
  | called {a : Aggregate} {n : Value} {f : Closure} (happened : .called a n (.ok f) ∈ events) :
      MadeBy events a.factory f
  | invoked {g f : Closure} {argument : Value} (happened : .invoked g argument (.ok f) ∈ events) :
      MadeBy events g.factory f

theorem Valid.madeBy (valid : Valid events) {f : Closure} (back : f ∈ returned events) :
    MadeBy events f.factory f := by
  obtain ⟨event, happened, result⟩ := mem_returned.mp back
  unfold Event.returned? at result
  split at result <;> cases result
  · obtain ⟨before, -, -, same, -⟩ := valid.follows_of_mem happened
    have maker := MadeBy.called happened
    rw [same] at maker ⊢
    exact maker
  · obtain ⟨before, -, -, same, -⟩ := valid.follows_of_mem happened
    have maker := MadeBy.invoked happened
    rw [same] at maker ⊢
    exact maker

def emitters (events : List Event) : List String :=
  (sightings events).filterMap fun sighting => (sighting.observation 0).emitter?

def directCallers (events : List Event) : List String :=
  ((calls events).filter (·.callType == .direct)).map (·.caller.name)

theorem emitters_append (events more : List Event) :
    emitters (events ++ more) = emitters events ++ emitters more := by
  rw [emitters, sightings_append, List.filterMap_append]
  rfl

theorem directCallers_append (events more : List Event) :
    directCallers (events ++ more) = directCallers events ++ directCallers more := by
  rw [directCallers, calls_append, List.filter_append, List.map_append]
  rfl

theorem emitters_of_not_failed {event : Event} (unfailed : event.failed = false) :
    emitters [event] = directCallers [event] := by
  cases event with
  | made a => rfl
  | probed a form => cases form <;> rfl
  | called a n result =>
      cases result with
      | error fault => cases unfailed
      | ok f => rfl
  | invoked g argument result =>
      cases result with
      | error fault => cases unfailed
      | ok f => rfl

theorem emitters_of_failed {event : Event} (failed : event.failed = true) :
    emitters [event] = [] ∧ (directCallers [event]).length = 1 := by
  cases event with
  | made a => cases failed
  | probed a form => cases failed
  | called a n result =>
      cases result with
      | error fault => exact ⟨rfl, rfl⟩
      | ok f => cases failed
  | invoked g argument result =>
      cases result with
      | error fault => exact ⟨rfl, rfl⟩
      | ok f => cases failed

theorem Follows.unfailed {event : Event} (follows : Follows events event)
    (emits : emitters [event] ≠ []) : ∀ e ∈ events, e.failed = false := by
  cases event with
  | made a => exact absurd rfl emits
  | probed a form => exact absurd rfl emits
  | called a n result =>
      cases result with
      | error fault => exact absurd rfl emits
      | ok f => exact follows.2.2
  | invoked g argument result =>
      cases result with
      | error fault => exact absurd rfl emits
      | ok f => exact follows.2.2

theorem Valid.emitters_prefix (valid : Valid events) :
    emitters events <+: directCallers events ∧
      ((∀ event ∈ events, event.failed = false) → emitters events = directCallers events) := by
  induction valid with
  | start => exact ⟨List.prefix_refl _, fun _ => rfl⟩
  | @next events event before follows ih =>
      -- an emission is appended at its place only because nothing failed before it
      obtain ⟨piece, whole⟩ := ih
      rw [emitters_append, directCallers_append]
      constructor
      · by_cases emits : emitters [event] = []
        · rw [emits, List.append_nil]
          exact piece.trans (List.prefix_append _ _)
        · have unfailed := follows.unfailed emits
          have success : event.failed = false := by
            by_cases failed : event.failed = true
            · exact absurd (emitters_of_failed failed).1 emits
            · exact Bool.eq_false_iff.mpr failed
          have same : emitters events ++ emitters [event] =
              directCallers events ++ directCallers [event] := by
            rw [whole unfailed, emitters_of_not_failed success]
          exact same ▸ List.prefix_refl _
      · intro unfailed
        have earlier : ∀ e ∈ events, e.failed = false :=
          fun e member => unfailed e (List.mem_append_left _ member)
        have last := unfailed event (List.mem_append_right _ (List.mem_singleton_self _))
        rw [whole earlier, emitters_of_not_failed last]

theorem length_directCallers (events : List Event) :
    (directCallers events).length = (emitters events).length + events.countP Event.failed := by
  induction events with
  | nil => rfl
  | cons event rest ih =>
      have split : event :: rest = [event] ++ rest := rfl
      rw [split, emitters_append, directCallers_append, List.length_append, List.length_append,
        List.countP_append, ih]
      by_cases failed : event.failed = true
      · obtain ⟨nothing, once⟩ := emitters_of_failed failed
        rw [nothing, once, List.countP_singleton, if_pos failed, List.length_nil]
        omega
      · rw [emitters_of_not_failed (Bool.eq_false_iff.mpr failed), List.countP_singleton,
          if_neg failed]
        omega

theorem receiverTypes_agree (events : List Event) :
    (sightings events).filterMap (fun sighting => (sighting.observation 0).receiverType?) =
      (calls events).filterMap (·.callType.receiverType?) := by
  rw [sightings, calls, List.filterMap_flatMap, List.filterMap_flatMap]
  congr 1
  funext event
  cases event with
  | made a => rfl
  | probed a form => cases form <;> rfl
  | called a n result => cases result <;> rfl
  | invoked g argument result => cases result <;> rfl

theorem closure_followed {i : Nat} {call : Call} (found : (calls events)[i]? = some call)
    (entered : call.callType = .closure) :
    ∃ f argument result, .invoked f argument result ∈ events ∧ call = ⟨.top, f.func, .closure⟩ ∧
      (calls events)[i + 1]? = some ⟨f.func, f.factory.func, .direct⟩ := by
  induction events generalizing i with
  | nil => cases found
  | cons event rest ih =>
      have split : calls (event :: rest) = event.calls ++ calls rest := rfl
      rw [split] at found ⊢
      have later {j : Nat} (shifted : (calls rest)[j]? = some call) :
          ∃ f argument result, .invoked f argument result ∈ event :: rest ∧
            call = ⟨.top, f.func, .closure⟩ ∧
            (calls rest)[j + 1]? = some ⟨f.func, f.factory.func, .direct⟩ := by
        obtain ⟨f, argument, result, happened, same, next⟩ := ih shifted
        exact ⟨f, argument, result, List.mem_cons_of_mem _ happened, same, next⟩
      cases event with
      | made a => exact later found
      | probed a form =>
          cases i with
          | zero =>
              cases found
              cases form <;> cases entered
          | succ j => exact later found
      | called a n result =>
          cases i with
          | zero =>
              cases found
              cases entered
          | succ j => exact later found
      | invoked f argument result =>
          match i with
          | 0 =>
              cases found
              exact ⟨f, argument, result, List.mem_cons_self, rfl, rfl⟩
          | 1 =>
              cases found
              cases entered
          | j + 2 => exact later found

end Chronicle

/-- The two records tell the same story. Only the calls of a shape occur, and probes and factories make
none; the call of a closure is followed by its direct call of the factory that made it; receivers stand
in the order of the calls that passed them, and emissions in the order of the direct calls. -/
structure Agreement (events : List Event) (failures : Nat) (c : Context) : Prop where
  shapes : ∀ edge ∈ c.graph.edges, ∃ source target,
    c.graph.node? edge.caller = some source ∧ c.graph.node? edge.callee = some target ∧
      Chronicle.Shape events source target edge.site.callType
  leaves : ∀ a, .made a ∈ events →
    c.graph.callsFrom a.probe.id = [] ∧ c.graph.callsFrom a.factory.func.id = []
  followed : ∀ i edge, c.graph.edges[i]? = some edge → edge.site.callType = .closure →
    ∃ f factory, Chronicle.MadeBy events factory f ∧ edge.callee = f.func.id ∧
      c.graph.edges[i + 1]? =
        some ⟨f.func.id, factory.func.id, ⟨edge.site.seq + 1, .direct⟩⟩
  receivers : c.trace.observations.filterMap Observation.receiverType? =
    c.graph.edges.filterMap fun edge => edge.site.callType.receiverType?
  emitters : ∀ (i : Nat) (name : String),
    (c.trace.observations.filterMap Observation.emitter?)[i]? = some name →
    ∃ (edge : CallEdge) (source : FuncRef),
      (c.graph.edges.filter (·.site.callType == .direct))[i]? = some edge ∧
        c.graph.node? edge.caller = some source ∧ source.name = name
  failures : c.graph.edgeCountOf .direct = c.trace.emitted.length + failures

namespace Records

variable {events : List Event} {c : Context}

theorem emitters (records : Records events c) :
    c.trace.observations.filterMap Observation.emitter? = Chronicle.emitters events := by
  apply records.view_observations
  intro i sighting
  cases sighting <;> rfl

-- Every direct edge has a node for its source, so no place of the list is lost.
theorem directCallers (records : Records events c) :
    (c.graph.edges.filter (·.site.callType == .direct)).map
        (fun edge : CallEdge => (c.graph.node? edge.caller).map FuncRef.name) =
      (Chronicle.directCallers events).map some := by
  rw [Chronicle.directCallers, List.map_map, ← List.filterMap_eq_map, ← List.filterMap_eq_map,
    List.filterMap_filter, List.filterMap_filter]
  apply records.view_edges
  intro i call member
  have caller := records.node? (Chronicle.mentions_of_call member).1
  simp only [Call.edge, Function.comp_apply, caller, Option.map_some]

theorem shapes (records : Records events c) {edge : CallEdge} (member : edge ∈ c.graph.edges) :
    ∃ source target,
      c.graph.node? edge.caller = some source ∧ c.graph.node? edge.callee = some target ∧
        Chronicle.Shape events source target edge.site.callType := by
  rw [records.edges] at member
  obtain ⟨i, inside, same⟩ := List.mem_mapIdx.mp member
  have recorded := List.getElem_mem inside
  obtain ⟨caller, callee⟩ := Chronicle.mentions_of_call recorded
  rw [← same]
  exact ⟨_, _, records.node? caller, records.node? callee, records.valid.shape recorded⟩

theorem sorted (records : Records events c) :
    c.graph.edges.Pairwise fun a b => a.site.seq < b.site.seq := by
  rw [records.graph]
  exact CallGraph.sorted_record _ rfl 0 _

-- Only the top level and closures call, and no closure has the name of `f`.
theorem leaf (records : Records events c) {f : FuncRef} (given : f ∈ Chronicle.given events)
    (other : ∀ id, Context.closureName id ≠ f.name) : c.graph.callsFrom f.id = [] := by
  rw [CallGraph.callsFrom_of_sorted records.sorted, List.filter_eq_nil_iff]
  intro edge member same
  obtain ⟨source, target, caller, -, shape⟩ := records.shapes member
  have id : source.id = f.id := by
    have found := List.find?_some caller
    rw [beq_iff_eq] at found
    rw [found]
    exact beq_iff_eq.mp same
  have top : FuncRef.top.id ≠ f.id := (records.valid.given_ne_top given).symm
  generalize edge.site.callType = callType at shape
  cases shape with
  | probe made form => exact top id
  | factory made => exact top id
  | closure back => exact top id
  | again made back _ =>
      have named := records.valid.name_of_returned back
      rw [records.valid.given_unique (Chronicle.given_of_returned back) given id] at named
      exact other _ named.symm

theorem followed (records : Records events c) {i : Nat} {edge : CallEdge}
    (found : c.graph.edges[i]? = some edge) (entered : edge.site.callType = .closure) :
    ∃ f factory, Chronicle.MadeBy events factory f ∧ edge.callee = f.func.id ∧
      c.graph.edges[i + 1]? =
        some ⟨f.func.id, factory.func.id, ⟨edge.site.seq + 1, .direct⟩⟩ := by
  rw [records.edges, List.getElem?_mapIdx] at found ⊢
  obtain ⟨call, recorded, rfl⟩ := Option.map_eq_some_iff.mp found
  obtain ⟨f, argument, result, happened, same, next⟩ :=
    Chronicle.closure_followed recorded entered
  have back := records.valid.returned_of_invoked happened
  refine ⟨f, f.factory, records.valid.madeBy back, ?_, ?_⟩
  · rw [same]
    rfl
  · rw [next]
    rfl

theorem direct_of_emitter (records : Records events c) {i : Nat} {name : String}
    (found : (c.trace.observations.filterMap Observation.emitter?)[i]? = some name) :
    ∃ (edge : CallEdge) (source : FuncRef),
      (c.graph.edges.filter (·.site.callType == .direct))[i]? = some edge ∧
        c.graph.node? edge.caller = some source ∧ source.name = name := by
  rw [records.emitters] at found
  obtain ⟨rest, whole⟩ := records.valid.emitters_prefix.1
  have direct : ((Chronicle.directCallers events).map some)[i]? = some (some name) := by
    have inside := (List.getElem?_eq_some_iff.mp found).choose
    rw [List.getElem?_map, ← whole, List.getElem?_append_left inside, found]
    rfl
  rw [← records.directCallers, List.getElem?_map] at direct
  obtain ⟨edge, placed, named⟩ := Option.map_eq_some_iff.mp direct
  obtain ⟨source, stands, same⟩ := Option.map_eq_some_iff.mp named
  exact ⟨edge, source, placed, stands, same⟩

theorem failures (records : Records events c) :
    c.graph.edgeCountOf .direct = c.trace.emitted.length + events.countP Event.failed := by
  have direct := congrArg List.length records.directCallers
  have emitted : c.trace.emitted.length = (Chronicle.emitters events).length := by
    rw [← records.emitters, Trace.emitted, List.length_filterMap_eq_countP,
      List.length_filterMap_eq_countP]
    congr 1
    funext observation
    cases observation <;> rfl
  rw [List.length_map, List.length_map, Chronicle.length_directCallers] at direct
  rw [emitted, ← direct]
  rfl

theorem agreement (records : Records events c) :
    Agreement events (events.countP Event.failed) c where
  shapes := fun edge member => records.shapes member
  leaves := by
    intro a made
    obtain ⟨probe, factory⟩ := records.valid.names_of_made made
    constructor
    · apply records.leaf (Chronicle.probe_given made)
      intro id
      rw [probe]
      exact Chronicle.closureName_ne id (by decide)
    · apply records.leaf (Chronicle.factory_given made)
      intro id
      rw [factory]
      exact Chronicle.closureName_ne id (by decide)
  followed := fun i edge found entered => records.followed found entered
  receivers := by
    rw [records.view_observations Observation.receiverType?
      (fun sighting => (sighting.observation 0).receiverType?) (by rintro i (_ | _) <;> rfl),
      Chronicle.receiverTypes_agree]
    exact (records.view_edges _ _ (fun i call member => rfl)).symm
  emitters := fun i name found => records.direct_of_emitter found
  failures := records.failures

end Records

/-- After any driver operations, in any mode and into any sink, the graph and the trace agree, and the
direct calls outnumber the emissions by the emissions that failed. -/
theorem Session.graph_and_trace_agree (mode : Mode) (sink : Sink) (operations : List Operation)
    (driver : ∀ operation ∈ operations, operation.isDriver = true) :
    let start := fresh mode sink
    Agreement (start.chronicle operations) (start.failedEmissions operations).length
      (start.runAll operations).context := by
  intro start
  have chronicled := (Chronicled.fresh mode sink).runAll operations driver
  rw [← start.failed_chronicle operations driver]
  exact chronicled.records.agreement

/-- Two lines fit, the third is cut, and a closure is called once more after that. -/
theorem Session.graph_and_trace_agree_past_cut :
    let operations : List Operation := [.newAggregate, .callFactory 0 (.constant .null),
      .invokeClosure 0 (.constant .undefined), .runProgram (.constant (.bool true)) [.closure 0],
      .invokeClosure 0 .ambient]
    let start := fresh .strict { limit := some 12 }
    (∀ operation ∈ operations, operation.isDriver = true) ∧
      (start.failedEmissions operations).length = 2 ∧
      Agreement (start.chronicle operations) 2 (start.runAll operations).context := by
  intro operations start
  have driver : ∀ operation ∈ operations, operation.isDriver = true := by decide
  have failures : (start.failedEmissions operations).length = 2 := by decide +kernel
  have agree : Agreement (start.chronicle operations) (start.failedEmissions operations).length
      (start.runAll operations).context :=
    graph_and_trace_agree .strict { limit := some 12 } operations driver
  rw [failures] at agree
  exact ⟨driver, failures, agree⟩

end CaptureProbe
