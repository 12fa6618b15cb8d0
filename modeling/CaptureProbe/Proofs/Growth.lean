import CaptureProbe.Context
import CaptureProbe.Output.SinkLaws

/-!
What an operation adds to a context. Calls and sightings are the entries of the call graph and of the
trace before they are numbered; a growth holds them together with the bytes written and the counts of
identities given out. Operations that run one after the other add up their growths. The log is left
outside: it grows too, but nothing reads it back.
-/

namespace CaptureProbe

structure Call where
  caller : FuncRef
  callee : FuncRef
  callType : CallType
  deriving DecidableEq

def Call.edge (call : Call) (seq : Nat) : CallEdge :=
  ⟨call.caller.id, call.callee.id, ⟨seq, call.callType⟩⟩

inductive Sighting where
  | emitted (caller : String) (value : Value)
  | receiver (callType : CallType) (value : Value)
  deriving DecidableEq

namespace Sighting

def observation (seq : Nat) : Sighting → Observation
  | .emitted caller value => .emitted seq caller value
  | .receiver callType value => .receiver seq callType value

def emission? : Sighting → Option Value
  | .emitted _ value => some value
  | .receiver _ _ => none

@[simp] theorem emission?_observation (sighting : Sighting) (seq : Nat) :
    (sighting.observation seq).emission? = sighting.emission? := by
  cases sighting <;> rfl

end Sighting

-- A view that does not look at the number of an entry sees a numbered list as it sees the entries.
theorem filterMap_mapIdx {α β γ : Type} (number : Nat → α → β) (view : β → Option γ)
    (plain : α → Option γ) (entries : List α)
    (same : ∀ i, ∀ a ∈ entries, view (number i a) = plain a) :
    (entries.mapIdx number).filterMap view = entries.filterMap plain := by
  induction entries generalizing number with
  | nil => rfl
  | cons entry rest ih =>
      have later := ih (fun i => number (i + 1))
        fun i a member => same (i + 1) a (List.mem_cons_of_mem _ member)
      rw [List.mapIdx_cons, List.filterMap_cons, List.filterMap_cons,
        same 0 entry List.mem_cons_self, later]

namespace Trace

def observe (t : Trace) (sightings : List Sighting) : Trace :=
  ⟨t.observations ++ sightings.mapIdx fun i sighting => sighting.observation (t.length + i)⟩

@[simp] theorem observe_nil (t : Trace) : t.observe [] = t := by
  simp [observe]

theorem observe_append (t : Trace) (first second : List Sighting) :
    t.observe (first ++ second) = (t.observe first).observe second := by
  simp only [observe, length, List.mapIdx_append, List.length_append, List.length_mapIdx,
    List.append_assoc, Nat.add_comm, Nat.add_left_comm]

theorem pushEmitted_eq (t : Trace) (caller : String) (value : Value) :
    t.pushEmitted caller value = t.observe [.emitted caller value] := rfl

theorem view_observe {γ : Type} (view : Observation → Option γ) (plain : Sighting → Option γ)
    (same : ∀ i sighting, view (Sighting.observation i sighting) = plain sighting) (t : Trace)
    (sightings : List Sighting) :
    (t.observe sightings).observations.filterMap view =
      t.observations.filterMap view ++ sightings.filterMap plain := by
  rw [observe, List.filterMap_append, filterMap_mapIdx _ view plain]
  intro i sighting _
  exact same _ sighting

theorem emitted_observe (t : Trace) (sightings : List Sighting) :
    (t.observe sightings).emitted = t.emitted ++ sightings.filterMap Sighting.emission? :=
  t.view_observe _ _ (fun i sighting => sighting.emission?_observation i) sightings

end Trace

namespace CallGraph

def record (g : CallGraph) (first : Nat) : List Call → CallGraph
  | [] => g
  | call :: rest =>
    (g.addEdge ⟨first, call.callType⟩ call.caller call.callee).record (first + 1) rest

theorem record_append (g : CallGraph) (first : Nat) (calls more : List Call) :
    g.record first (calls ++ more) = (g.record first calls).record (first + calls.length) more := by
  induction calls generalizing g first with
  | nil => rfl
  | cons call rest ih =>
      simp only [List.cons_append, record, ih, List.length_cons]
      congr 1
      omega

theorem edges_record (g : CallGraph) (first : Nat) (calls : List Call) :
    (g.record first calls).edges =
      g.edges ++ calls.mapIdx fun i call => call.edge (first + i) := by
  induction calls generalizing g first with
  | nil => simp [record]
  | cons call rest ih =>
      have shift : ∀ i, first + 1 + i = first + (i + 1) := fun i => by omega
      simp only [record, ih, edges_addEdge, List.mapIdx_cons, List.append_assoc, shift]
      rfl

def mentions (calls : List Call) : List FuncRef :=
  calls.flatMap fun call => [call.caller, call.callee]

theorem nodes_addNode_congr {g h : CallGraph} (same : g.nodes = h.nodes) (f : FuncRef) :
    (g.addNode f).nodes = (h.addNode f).nodes := by
  unfold addNode
  rw [same]
  split <;> simp [same]

theorem nodes_foldl_congr (functions : List FuncRef) {g h : CallGraph} (same : g.nodes = h.nodes) :
    (functions.foldl addNode g).nodes = (functions.foldl addNode h).nodes := by
  induction functions generalizing g h with
  | nil => exact same
  | cons f rest ih => exact ih (nodes_addNode_congr same f)

theorem nodes_record (g : CallGraph) (first : Nat) (calls : List Call) :
    (g.record first calls).nodes = ((mentions calls).foldl addNode g).nodes := by
  induction calls generalizing g first with
  | nil => rfl
  | cons call rest ih =>
      rw [record, ih]
      exact nodes_foldl_congr (mentions rest) rfl

end CallGraph

structure Growth where
  calls : List Call := []
  sightings : List Sighting := []
  bytes : List UInt8 := []
  objects : Nat := 0
  functions : Nat := 0

namespace Growth

instance : Append Growth where
  append g h := {
    calls := g.calls ++ h.calls
    sightings := g.sightings ++ h.sightings
    bytes := g.bytes ++ h.bytes
    objects := g.objects + h.objects
    functions := g.functions + h.functions }

end Growth

namespace Context

/-- One context comes from another by a growth, with its realm and its call stack kept. -/
structure Grows (c : Context) (g : Growth) (d : Context) : Prop where
  realm : d.realm = c.realm
  calls : d.calls = c.calls
  sink : d.sink = c.sink.append g.bytes
  graph : d.graph = c.graph.record c.nextSite g.calls
  trace : d.trace = c.trace.observe g.sightings
  nextObject : d.nextObject = c.nextObject + g.objects
  nextFunction : d.nextFunction = c.nextFunction + g.functions
  nextSite : d.nextSite = c.nextSite + g.calls.length

namespace Grows

variable {c d e : Context} {g h : Growth}

theorem refl (c : Context) : c.Grows {} c :=
  ⟨rfl, rfl, (Sink.append_nil _).symm, rfl, (Trace.observe_nil _).symm, rfl, rfl, rfl⟩

theorem trans (first : c.Grows g d) (second : d.Grows h e) : c.Grows (g ++ h) e where
  realm := second.realm.trans first.realm
  calls := second.calls.trans first.calls
  sink := by
    rw [second.sink, first.sink]
    simp only [Sink.append, List.append_assoc]
    rfl
  graph := by
    rw [second.graph, first.graph, first.nextSite, ← CallGraph.record_append]
    rfl
  trace := by
    rw [second.trace, first.trace, ← Trace.observe_append]
    rfl
  nextObject := by
    rw [second.nextObject, first.nextObject, Nat.add_assoc]
    rfl
  nextFunction := by
    rw [second.nextFunction, first.nextFunction, Nat.add_assoc]
    rfl
  nextSite := by
    rw [second.nextSite, first.nextSite, Nat.add_assoc, ← List.length_append]
    rfl

theorem noted (grows : c.Grows g d) (level : Log.Level) (origin : Log.Origin) (message : String) :
    c.Grows g (d.note level origin message) :=
  ⟨grows.realm, grows.calls, grows.sink, grows.graph, grows.trace, grows.nextObject,
    grows.nextFunction, grows.nextSite⟩

/-- A call that is entered, grows inside and is left again adds itself in front of what the inside
adds. -/
theorem within {callee : FuncRef} {callType : CallType} (inside : (c.enter callee callType).Grows g d) :
    c.Grows { g with calls := ⟨c.current, callee, callType⟩ :: g.calls } d.leave := by
  have top : d.calls = callee :: c.calls := inside.calls
  have left : d.leave = { d with calls := c.calls } := by
    rw [leave, top]
  rw [left]
  refine ⟨inside.realm, rfl, inside.sink, inside.graph, inside.trace, inside.nextObject,
    inside.nextFunction, ?_⟩
  rw [inside.nextSite, List.length_cons]
  change c.nextSite + 1 + g.calls.length = _
  omega

theorem current (grows : c.Grows g d) : d.current = c.current := by
  simp only [Context.current, grows.calls]

theorem emitted (grows : c.Grows g d) :
    d.trace.emitted = c.trace.emitted ++ g.sightings.filterMap Sighting.emission? := by
  rw [grows.trace, Trace.emitted_observe]

theorem edges (grows : c.Grows g d) :
    d.graph.edges = c.graph.edges ++ g.calls.mapIdx fun i call => call.edge (c.nextSite + i) := by
  rw [grows.graph, CallGraph.edges_record]

end Grows
end Context
end CaptureProbe
