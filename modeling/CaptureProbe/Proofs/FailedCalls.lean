import CaptureProbe.Proofs.CallStack
import CaptureProbe.Proofs.Invocation

/-!
What is left of a call that fails. A call fails for one reason: the line that it emits in the end is
longer than what the sink still takes. By then the calls on the way to the emission are recorded, and
the part of the line that fitted is written; nothing is observed or handed out yet, and every function
that was entered is left again.
-/

namespace CaptureProbe

namespace Sink

def left? (s : Sink) : Option Nat := s.limit.map (· - s.written.length)

/-- The sink, offered a text, takes nothing of it and thereby makes a write end with the fault: its
own, or the one for a write that makes no headway. -/
def Declines (s : Sink) (bytes : List UInt8) (fault : Fault) : Prop :=
  s.offer bytes = .error fault ∨ (s.offer bytes = .ok 0 ∧ fault = .stalled)

theorem not_fits_iff (s : Sink) (v : Value) :
    s.fits v = false ↔ ∃ left, s.left? = some left ∧ left < v.lineBytes.length := by
  unfold fits left? room
  cases s.limit with
  | none => simp
  | some limit =>
      simp only [Option.map_some, Option.some.injEq, beq_eq_false_iff_ne]
      constructor
      · intro cut
        exact ⟨_, rfl, by omega⟩
      · rintro ⟨_, rfl, short⟩
        omega

theorem part_of_left {s : Sink} {left : Nat} (rest : s.left? = some left) (bytes : List UInt8) :
    s.part bytes = bytes.take left := by
  obtain ⟨limit, bound, rfl⟩ := Option.map_eq_some_iff.mp rest
  simp only [part, room, bound, List.take_eq_take_iff]
  omega

theorem declines_of_full {s : Sink} (full : ∀ count, s.room count = 0) (bytes : List UInt8) :
    s.Declines bytes (s.overflow .stalled) := by
  unfold Declines offer overflow
  rw [if_pos (full _)]
  cases s.whenFull with
  | refuse fault => exact Or.inl rfl
  | takeNothing => exact Or.inr ⟨rfl, rfl⟩

end Sink

namespace CallGraph

theorem addNode_of_knows {g : CallGraph} {f : FuncRef} (knows : g.Knows f.id) : g.addNode f = g := by
  obtain ⟨h, member, same⟩ := (g.knows_iff f.id).mp knows
  rw [addNode, if_pos]
  rw [List.any_eq_true]
  exact ⟨h, member, by simp [same]⟩

def path (caller : FuncRef) : List (FuncRef × CallType) → List Call
  | [] => []
  | (callee, callType) :: rest => ⟨caller, callee, callType⟩ :: path callee rest

-- Only callees are new on a path that begins at a known function.
theorem nodes_record_path (steps : List (FuncRef × CallType)) {g : CallGraph} {caller : FuncRef}
    (knows : g.Knows caller.id) (first : Nat) :
    ∃ more, (g.record first (path caller steps)).nodes = g.nodes ++ more ∧
      more.Sublist (steps.map Prod.fst) := by
  induction steps generalizing g caller first with
  | nil => exact ⟨[], (List.append_nil _).symm, List.Sublist.refl _⟩
  | cons step rest ih =>
      obtain ⟨callee, callType⟩ := step
      let next := g.addEdge ⟨first, callType⟩ caller callee
      have known : next.Knows callee.id :=
        (g.knows_addEdge _ caller callee _).mpr (Or.inr (Or.inr rfl))
      obtain ⟨more, nodes, callees⟩ := ih known (first + 1)
      have grown : next.nodes = (g.addNode callee).nodes := by
        change ((g.addNode caller).addNode callee).nodes = _
        rw [addNode_of_knows knows]
      change ∃ more, (next.record (first + 1) (path callee rest)).nodes = g.nodes ++ more ∧ _
      rw [nodes, grown, addNode]
      by_cases old : g.nodes.any (·.id == callee.id) = true
      · rw [if_pos old]
        exact ⟨more, rfl, callees.cons _⟩
      · rw [if_neg old, List.append_assoc]
        exact ⟨callee :: more, rfl, callees.cons_cons _⟩

end CallGraph

namespace Context

/-- A call broke off at the emission of a value, with room for `left` bytes of its line. The `steps`
that it took from the current function on stay recorded, at the end of the graph. -/
structure BreaksOff (c : Context) (steps : List (FuncRef × CallType)) (v : Value) (left : Nat)
    (fault : Fault) (d : Context) : Prop where
  trace : d.trace = c.trace
  stack : d.stack = c.stack
  realm : d.realm = c.realm
  nextObject : d.nextObject = c.nextObject
  nextFunction : d.nextFunction = c.nextFunction
  sink : d.sink = c.sink.append (v.lineBytes.take left)
  declined : d.sink.Declines (v.lineBytes.drop left) fault
  edges : d.graph.edges = c.graph.edges ++
    (CallGraph.path c.current steps).mapIdx fun i call => call.edge (c.graph.edgeCount + i)
  nodes : ∃ more, d.graph.nodes = c.graph.nodes ++ more ∧ more.Sublist (steps.map Prod.fst)

theorem Grows.breaksOff {c d : Context} {steps : List (FuncRef × CallType)} {caller : FuncRef}
    {v : Value} (linked : c.Linked)
    (grows : c.Grows (.emission c.sink (CallGraph.path c.current steps) caller v) d) {left : Nat}
    (rest : c.sink.left? = some left) (short : left < v.lineBytes.length) :
    c.BreaksOff steps v left (c.sink.overflow .stalled) d := by
  have fits : c.sink.fits v = false := (c.sink.not_fits_iff v).mpr ⟨left, rest, short⟩
  have current : c.graph.Knows c.current.id := by
    obtain ⟨below, stack⟩ := c.stack_eq_current_cons
    apply linked.known
    rw [stack]
    exact List.mem_cons_self
  have trace := grows.trace
  have nextFunction := grows.nextFunction
  have sink := grows.sink
  simp only [Growth.emission, fits, Bool.false_eq_true, if_false] at trace nextFunction sink
  constructor
  · exact trace.trans (Trace.observe_nil _)
  · rw [stack, stack, grows.calls]
  · exact grows.realm
  · exact grows.nextObject
  · exact nextFunction
  · rw [sink, Sink.part_of_left rest]
  · have full := Sink.room_of_cut (Sink.cut_of_not_fits fits)
    rw [← sink] at full
    have declined := Sink.declines_of_full full (v.lineBytes.drop left)
    rw [sink] at declined ⊢
    exact declined
  · rw [grows.edges, linked.counted]
    rfl
  · rw [grows.graph]
    exact CallGraph.nodes_record_path steps current c.nextSite

structure Emits (c : Context) (steps : List (FuncRef × CallType)) (v : Value)
    (answer : Except Fault Closure × Context) : Prop where
  fails_iff : (∃ fault, answer.1 = .error fault) ↔
    ∃ left, c.sink.left? = some left ∧ left < v.lineBytes.length
  breaksOff : ∀ fault, answer.1 = .error fault →
    ∃ left, c.sink.left? = some left ∧ c.BreaksOff steps v left fault answer.2

theorem Grows.emits {c : Context} {steps : List (FuncRef × CallType)} {caller : FuncRef} {v : Value}
    {closure : Closure} {answer : Except Fault Closure × Context} (linked : c.Linked)
    (grows : c.Grows (.emission c.sink (CallGraph.path c.current steps) caller v) answer.2)
    (result : answer.1 =
      if c.sink.fits v then .ok closure else .error (c.sink.overflow .stalled)) :
    c.Emits steps v answer := by
  cases fits : c.sink.fits v with
  | true =>
      rw [if_pos fits] at result
      constructor
      · simp only [← c.sink.not_fits_iff v, fits, result]
        simp
      · intro fault failed
        rw [result] at failed
        cases failed
  | false =>
      rw [fits] at result
      obtain ⟨left, rest, short⟩ := (c.sink.not_fits_iff v).mp fits
      constructor
      · exact ⟨fun _ => ⟨left, rest, short⟩, fun _ => ⟨_, result⟩⟩
      · intro fault failed
        rw [result] at failed
        cases failed
        exact ⟨left, rest, grows.breaksOff linked rest short⟩

end Context

/-- After any operations, in any mode and into any sink, whatever is executing. A call of a factory or
of a closure fails if and only if the line of the value that it emits does not fit, and then it breaks
off: all but the calls that it made and the bytes that fitted is as it was before. -/
theorem Session.failed_calls_break_off (mode : Mode) (sink : Sink) (operations : List Operation) :
    let c := ((fresh mode sink).runAll operations).context
    (∀ (f : Factory) (n : Value), c.Emits [(f.func, .direct)] n (f.invoke n c)) ∧
      ∀ (f : Closure) (argument : Value),
        c.Emits [(f.func, .closure), (f.factory.func, .direct)] f.captured (f.invoke argument c) := by
  intro c
  have linked : c.Linked :=
    runAll_kept Context.Linked.kept (Context.fresh_linked mode sink) operations
  constructor
  · intro f n
    exact (f.invoke_grows n c).emits linked (f.invoke_fst n c)
  · intro f argument
    exact (f.invoke_grows argument c).emits linked (f.invoke_fst argument c)

/-- A closure that is executing calls itself and is cut two bytes into its line. -/
theorem Session.closure_breaks_off_inside_line :
    let operations : List Operation := [.newAggregate, .callFactory 0 (.constant (.text "ab")),
      .enter (.closure 0) .closure]
    let sink : Sink := { limit := some 5, whenFull := .refuse (.closed .wouldBlock) }
    let c := ((fresh .sloppy sink).runAll operations).context
    let f : Closure := ⟨⟨3, "closure#3"⟩, .text "ab", ⟨⟨2, "factory"⟩⟩⟩
    c.current = f.func ∧ (f.invoke .null c).1 = .error (.closed .wouldBlock) ∧
      c.BreaksOff [(f.func, .closure), (f.factory.func, .direct)] f.captured 2 (.closed .wouldBlock)
        (f.invoke .null c).2 := by
  intro operations sink c f
  have current : c.current = f.func := by decide +kernel
  have failed : (f.invoke .null c).1 = .error (.closed .wouldBlock) := by decide +kernel
  have room : c.sink.left? = some 2 := by decide +kernel
  have closures := (failed_calls_break_off .sloppy sink operations).2
  obtain ⟨left, rest, off⟩ := (closures f .null).breaksOff _ failed
  cases room.symm.trans rest
  exact ⟨current, failed, off⟩

end CaptureProbe
