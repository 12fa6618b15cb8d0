import CaptureProbe.Proofs.BuiltGraph
import CaptureProbe.Proofs.CaptureInvariance
import CaptureProbe.Proofs.ReportText

/-!
What the statistics of a driver session count as closures. A closure is made in the body of a factory,
but the count is taken from the nodes of the call graph, and a function has no node before a call
mentions it. So the count is that of the closures that were called at least once; a closure that is
only returned, as the last one of every chain is, is left out.
-/

namespace CaptureProbe

theorem CallGraph.Sound.record {g : CallGraph} (sound : g.Sound) (first : Nat) (calls : List Call) :
    (g.record first calls).Sound := by
  induction calls generalizing g first with
  | nil => exact sound
  | cons call rest ih =>
      exact ih (sound.add (.edge ⟨first, call.callType⟩ call.caller call.callee)) (first + 1)

theorem CallGraph.mem_nodes_foldl {functions : List FuncRef} {g : CallGraph} {f : FuncRef}
    (member : f ∈ (functions.foldl addNode g).nodes) : f ∈ g.nodes ∨ f ∈ functions := by
  induction functions generalizing g with
  | nil => exact Or.inl member
  | cons first rest ih =>
      rcases ih member with old | later
      · rcases mem_nodes_addNode old with known | new
        · exact Or.inl known
        · exact Or.inr (new ▸ List.mem_cons_self)
      · exact Or.inr (List.mem_cons_of_mem _ later)

/-- Whether the statistics take a function for a closure, which they do by its name. -/
def FuncRef.namedAsClosure (f : FuncRef) : Bool := "closure#".toList.isPrefixOf f.name.toList

def Chronicle.called (events : List Event) : List Closure :=
  (returned events).filter fun f => events.any (Event.invokes f)

namespace Chronicle

variable {events : List Event}

theorem Valid.namedAsClosure (valid : Valid events) {f : Closure} (back : f ∈ returned events) :
    f.func.namedAsClosure = true := by
  rw [FuncRef.namedAsClosure, valid.name_of_returned back, Context.closureName, String.toList_append,
    List.isPrefixOf_iff_prefix]
  exact List.prefix_append _ _

theorem mem_called {f : Closure} :
    f ∈ called events ↔
      f ∈ returned events ∧ ∃ argument result, .invoked f argument result ∈ events := by
  rw [called, List.mem_filter, List.any_eq_true]
  refine and_congr_right fun _ => ?_
  constructor
  · rintro ⟨event, happened, invokes⟩
    cases event with
    | invoked g argument result =>
        have same : g = f := by simpa [Event.invokes] using invokes
        exact ⟨argument, result, same ▸ happened⟩
    | _ => cases invokes
  · rintro ⟨argument, result, happened⟩
    exact ⟨_, happened, by simp [Event.invokes]⟩

theorem Valid.factory_name (valid : Valid events) {f : Closure} (back : f ∈ returned events) :
    f.factory.func.name = "factory" := by
  obtain ⟨a, n, rooted⟩ := valid.rooted back
  rw [(rooted.kept valid).2]
  exact (valid.names_of_made (rooted.made valid)).2

theorem Valid.called_of_mentioned (valid : Valid events) {f : FuncRef}
    (mentioned : f ∈ CallGraph.mentions (calls events)) (named : f.namedAsClosure = true) :
    ∃ g ∈ called events, g.func = f := by
  have other {name : String} (same : f.name = name)
      (plain : "closure#".toList.isPrefixOf name.toList = false) : False := by
    rw [FuncRef.namedAsClosure, same, plain] at named
    cases named
  have top : FuncRef.top.name = "<top>" := rfl
  obtain ⟨call, recorded, either⟩ := List.mem_flatMap.mp mentioned
  obtain ⟨event, happened, made⟩ := List.mem_flatMap.mp recorded
  have ends : f = call.caller ∨ f = call.callee := by simpa using either
  cases event with
  | made a => cases made
  | probed a form =>
      rw [List.mem_singleton.mp made] at ends
      rcases ends with rfl | rfl
      · exact (other top (by decide)).elim
      · exact (other (valid.names_of_made (valid.made_of_probed happened)).1 (by decide)).elim
  | called a n result =>
      rw [List.mem_singleton.mp made] at ends
      rcases ends with rfl | rfl
      · exact (other top (by decide)).elim
      · exact (other (valid.names_of_made (valid.made_of_called happened)).2 (by decide)).elim
  | invoked g argument result =>
      have back := valid.returned_of_invoked happened
      have found : g ∈ called events := mem_called.mpr ⟨back, argument, result, happened⟩
      rcases List.mem_cons.mp made with rfl | inner
      · rcases ends with rfl | rfl
        · exact (other top (by decide)).elim
        · exact ⟨g, found, rfl⟩
      · rw [List.mem_singleton.mp inner] at ends
        rcases ends with rfl | rfl
        · exact ⟨g, found, rfl⟩
        · exact (other (valid.factory_name back) (by decide)).elim

theorem Valid.nodup_called (valid : Valid events) : ((called events).map Closure.func).Nodup := by
  have given : (given events).Nodup := by
    apply List.Nodup.of_map FuncRef.id
    rw [valid.ids_given]
    exact List.nodup_range'
  exact (given.sublist (returned_sublist events)).sublist (List.filter_sublist.map Closure.func)

theorem length_returned (events : List Event) :
    (returned events).length = ((sightings events).filterMap Sighting.emission?).length := by
  induction events with
  | nil => rfl
  | cons event rest ih =>
      have split : event :: rest = [event] ++ rest := rfl
      have once : (returned [event]).length =
          ((sightings [event]).filterMap Sighting.emission?).length := by
        cases event with
        | made a => rfl
        | probed a form => rfl
        | called a n result => cases result <;> rfl
        | invoked g argument result => cases result <;> rfl
      rw [split, returned_append, sightings_append, List.length_append, List.filterMap_append,
        List.length_append, once, ih]

/-- A closure that is returned next has not been called, as the ids of those that were are below its
own. -/
theorem Valid.not_invoked_of_next (valid : Valid events) {f : Closure}
    (next : f.func.id = nextId events) {event : Event}
    (member : event ∈ events ∨ Follows events event) : event.invokes f = false := by
  have known {g : Closure} (back : g ∈ returned events) : g ≠ f := by
    rintro rfl
    have id := List.mem_map_of_mem (f := FuncRef.id) (given_of_returned back)
    rw [valid.ids_given, List.mem_range'_1, next, nextId] at id
    omega
  cases event with
  | invoked g argument result =>
      have back : g ∈ returned events := by
        rcases member with happened | follows
        · exact valid.returned_of_invoked happened
        · exact follows.1
      simpa [Event.invokes] using known back
  | _ => rfl

-- By induction on the chronicle: a call that succeeds returns the closure that is not called yet, and
-- every other event leaves the one that there was.
theorem Valid.exists_uncalled (valid : Valid events)
    (unfailed : ∀ event ∈ events, event.failed = false) (some_ : returned events ≠ []) :
    ∃ f ∈ returned events, ∀ event ∈ events, event.invokes f = false := by
  induction valid with
  | start => exact absurd rfl some_
  | @next events event before follows ih =>
      rw [returned_append] at some_ ⊢
      cases back : event.returned? with
      | some f =>
          have next : f.func.id = nextId events := by rw [(follows.returned back).1]
          refine ⟨f, List.mem_append_right _ (mem_returned.mpr ⟨event, by simp, back⟩), ?_⟩
          intro any member
          rcases List.mem_append.mp member with earlier | now
          · exact before.not_invoked_of_next next (Or.inl earlier)
          · rw [List.mem_singleton.mp now]
            exact before.not_invoked_of_next next (Or.inr follows)
      | none =>
          have nothing : returned [event] = [] := by simp [returned, back]
          rw [nothing, List.append_nil] at some_ ⊢
          obtain ⟨f, earlier, uncalled⟩ :=
            ih (fun any member => unfailed any (List.mem_append_left _ member)) some_
          refine ⟨f, earlier, ?_⟩
          intro any member
          rcases List.mem_append.mp member with old | now
          · exact uncalled any old
          · have fine := unfailed any member
            rw [List.mem_singleton.mp now] at fine ⊢
            cases event with
            | made a => rfl
            | probed a form => rfl
            | called a n result => rfl
            | invoked g argument result =>
                cases result with
                | ok f => cases back
                | error fault => cases fine

theorem length_called_eq_iff (events : List Event) :
    (called events).length = (returned events).length ↔
      ∀ f ∈ returned events, ∃ argument result, .invoked f argument result ∈ events := by
  rw [called, List.length_filter_eq_length_iff]
  constructor
  · intro all f back
    exact (mem_called.mp (List.mem_filter.mpr ⟨back, all f back⟩)).2
  · intro all f back
    exact (List.mem_filter.mp (mem_called.mpr ⟨back, all f back⟩)).2

theorem Valid.length_called_eq_iff_nil (valid : Valid events)
    (unfailed : ∀ event ∈ events, event.failed = false) :
    (called events).length = (returned events).length ↔ returned events = [] := by
  constructor
  · intro whole
    by_contra some_
    obtain ⟨f, back, uncalled⟩ := valid.exists_uncalled unfailed some_
    obtain ⟨argument, result, happened⟩ := (length_called_eq_iff events).mp whole f back
    have invoked := uncalled _ happened
    simp [Event.invokes] at invoked
  · intro none_
    rw [called, none_]
    rfl

end Chronicle

namespace Records

variable {events : List Event} {c : Context}

theorem emitted_length (records : Records events c) :
    c.trace.emitted.length = (Chronicle.returned events).length := by
  rw [Chronicle.length_returned, records.trace, Trace.emitted_observe]
  rfl

theorem unfailed_of_unbounded (records : Records events c) (unbounded : c.sink.limit = none) :
    ∀ event ∈ events, event.failed = false := by
  intro event happened
  apply Bool.eq_false_iff.mpr
  intro failed
  have full := records.full ⟨event, happened, failed⟩ 1
  rw [Sink.room, unbounded] at full
  cases full

theorem sound (records : Records events c) : c.graph.Sound := by
  rw [records.graph]
  exact (CallGraph.Sound.empty.add (.node .top)).record 0 _

-- A closure that was called is the callee of that call.
theorem mem_nodes_of_called (records : Records events c) {f : Closure}
    (called : f ∈ Chronicle.called events) : f.func ∈ c.graph.nodes := by
  obtain ⟨-, argument, result, happened⟩ := Chronicle.mem_called.mp called
  have call : ⟨.top, f.func, .closure⟩ ∈ Chronicle.calls events :=
    List.mem_flatMap.mpr ⟨_, happened, List.mem_cons_self⟩
  exact List.mem_of_find?_eq_some (records.node? (Chronicle.mentions_of_call call).2)

theorem called_of_mem_nodes (records : Records events c) {f : FuncRef}
    (member : f ∈ c.graph.nodes) (named : f.namedAsClosure = true) :
    ∃ g ∈ Chronicle.called events, g.func = f := by
  rw [records.graph, CallGraph.nodes_record] at member
  rcases CallGraph.mem_nodes_foldl member with top | mentioned
  · rw [List.mem_singleton.mp top] at named
    exact absurd named (by decide)
  · exact records.valid.called_of_mentioned mentioned named

theorem closureCount_eq (records : Records events c) :
    Statistics.closureCount c.graph = (Chronicle.called events).length := by
  have nodes : (c.graph.nodes.filter FuncRef.namedAsClosure).Nodup :=
    (records.sound.ids.of_map FuncRef.id).filter _
  have same : (c.graph.nodes.filter FuncRef.namedAsClosure).Perm
      ((Chronicle.called events).map Closure.func) := by
    rw [List.perm_ext_iff_of_nodup nodes records.valid.nodup_called]
    intro f
    rw [List.mem_filter, List.mem_map]
    constructor
    · rintro ⟨member, named⟩
      exact records.called_of_mem_nodes member named
    · rintro ⟨g, called, rfl⟩
      exact ⟨records.mem_nodes_of_called called,
        records.valid.namedAsClosure (Chronicle.mem_called.mp called).1⟩
  have lengths := same.length_eq
  rw [List.length_map] at lengths
  exact lengths

end Records

theorem Statistics.shown?_closures (g : CallGraph) (t : Trace) :
    Text.shown? "#Closures created: " (report g t) = some (Nat.repr (closureCount g)) := by
  have row : ⟨"#Closures created: ", closureCount g⟩ ∈ rows g t := by simp [rows]
  exact shown?_report row

namespace Session

/-- After any driver operations, in any mode and into any sink. What the statistics show as closures
created is the number of closures that were created and then called, where as many were created as
values were emitted. So the number shown is right if and only if no closure was left uncalled, and
into an unbounded sink it is right only while no closure exists. -/
theorem shown_closures_were_called (mode : Mode) (sink : Sink) (operations : List Operation)
    (driver : ∀ operation ∈ operations, operation.isDriver = true) :
    let start := fresh mode sink
    let events := start.chronicle operations
    let c := (start.runAll operations).context
    let created := Chronicle.returned events
    let called := Chronicle.called events
    Text.shown? "#Closures created: " (Statistics.report c.graph c.trace) =
        some (Nat.repr called.length) ∧
      (∀ f, f ∈ called ↔
        f ∈ created ∧ ∃ argument result, .invoked f argument result ∈ events) ∧
      created.length = c.trace.emitted.length ∧
      (called.length = created.length ↔
        ∀ f ∈ created, ∃ argument result, .invoked f argument result ∈ events) ∧
      (sink.limit = none → (called.length = created.length ↔ created = [])) := by
  intro start events c created called
  have records : Records events c := ((Chronicled.fresh mode sink).runAll operations driver).records
  have shown := Statistics.shown?_closures c.graph c.trace
  rw [records.closureCount_eq] at shown
  refine ⟨shown, fun f => Chronicle.mem_called, records.emitted_length.symm,
    Chronicle.length_called_eq_iff events, ?_⟩
  intro unbounded
  have open_ : c.sink.limit = none := (limit_runAll operations start).trans unbounded
  exact records.valid.length_called_eq_iff_nil (records.unfailed_of_unbounded open_)

/-- Two factory calls and a closure of a closure: four closures, of which two were called. -/
theorem half_of_closures_shown :
    let operations : List Operation := [.newAggregate, .callFactory 0 (.constant .null),
      .callFactory 0 (.constant (.bool true)), .invokeClosure 0 (.constant .undefined),
      .invokeClosure 2 .ambient]
    let start := fresh .strict {}
    let c := (start.runAll operations).context
    (∀ operation ∈ operations, operation.isDriver = true) ∧
      (Chronicle.returned (start.chronicle operations)).length = 4 ∧
      c.trace.emitted.length = 4 ∧
      Text.shown? "#Closures created: " (Statistics.report c.graph c.trace) = some "2" := by
  intro operations start c
  have driver : ∀ operation ∈ operations, operation.isDriver = true := by decide
  have created : (Chronicle.returned (start.chronicle operations)).length = 4 := by decide +kernel
  have called : (Chronicle.called (start.chronicle operations)).length = 2 := by decide +kernel
  obtain ⟨shown, -, emitted, -, -⟩ := shown_closures_were_called .strict {} operations driver
  rw [called] at shown
  exact ⟨driver, created, emitted.symm.trans created, shown⟩

/-- A closure was created, and none is shown. -/
theorem uncalled_closure_not_shown :
    let operations : List Operation := [.runFactoryOnly (.constant .null)]
    let start := fresh .strict {}
    let c := (start.runAll operations).context
    (∀ operation ∈ operations, operation.isDriver = true) ∧
      (Chronicle.returned (start.chronicle operations)).length = 1 ∧
      Text.shown? "#Closures created: " (Statistics.report c.graph c.trace) = some "0" := by
  intro operations start c
  have none_ : Statistics.closureCount c.graph = 0 := by decide +kernel
  have shown := Statistics.shown?_closures c.graph c.trace
  rw [none_] at shown
  exact ⟨by decide, by decide +kernel, shown⟩

end Session
end CaptureProbe
