import CaptureProbe.Proofs.DriverSession

/-!
The ledger of a session: what its operations handed out, in order, also what a run of the program made
and dropped. Objects and functions are numbered by two counters, which many operations advance, some of
them only if they succeed. Each entry of the ledger has the next number and the counters stand right
behind it, so nothing is handed out past the ledger, and all that a session holds is in it.
-/

namespace CaptureProbe

inductive Handout where
  | object (ref : ObjectRef)
  | function (ref : FuncRef)
  | closure (ref : FuncRef)
  | aggregate (a : Aggregate)

namespace Handout

def objects : Handout → List ObjectRef
  | .object ref => [ref]
  | .aggregate a => [a.object, a.holder]
  | _ => []

def functions : Handout → List FuncRef
  | .function ref => [ref]
  | .closure ref => [ref]
  | .aggregate a => [a.probe, a.factory.func]
  | _ => []

def closure? : Handout → Option FuncRef
  | .closure ref => some ref
  | _ => none

def aggregate? : Handout → Option Aggregate
  | .aggregate a => some a
  | _ => none

def ofResult : Except Fault Closure → List Handout
  | .ok f => [.closure f.func]
  | .error _ => []

end Handout

def Event.handouts : Event → List Handout
  | .made a => [.aggregate a]
  | .probed _ _ => []
  | .called _ _ result => Handout.ofResult result
  | .invoked _ _ result => Handout.ofResult result

namespace Ledger

def objects (given : List Handout) : List ObjectRef := given.flatMap Handout.objects

def functions (given : List Handout) : List FuncRef := given.flatMap Handout.functions

def closures (given : List Handout) : List FuncRef := given.filterMap Handout.closure?

def aggregates (given : List Handout) : List Aggregate := given.filterMap Handout.aggregate?

@[simp] theorem objects_append (given more : List Handout) :
    objects (given ++ more) = objects given ++ objects more :=
  List.flatMap_append

@[simp] theorem functions_append (given more : List Handout) :
    functions (given ++ more) = functions given ++ functions more :=
  List.flatMap_append

@[simp] theorem closures_append (given more : List Handout) :
    closures (given ++ more) = closures given ++ closures more :=
  List.filterMap_append

@[simp] theorem aggregates_append (given more : List Handout) :
    aggregates (given ++ more) = aggregates given ++ aggregates more :=
  List.filterMap_append

theorem mem_closures_ofResult {result : Except Fault Closure} {f : Closure} (ok : result = .ok f) :
    f.func ∈ closures (Handout.ofResult result) := by
  rw [ok]
  exact List.mem_singleton_self _

theorem closures_sublist (given : List Handout) : (closures given).Sublist (functions given) := by
  induction given with
  | nil => exact List.Sublist.refl _
  | cons handout rest ih =>
      cases handout with
      | object ref => exact ih
      | function ref => exact ih.cons _
      | closure ref => exact ih.cons_cons _
      | aggregate a => exact (ih.cons _).cons _

theorem members_sublist (given : List Handout) :
    ((aggregates given).flatMap fun a => [a.object, a.holder]).Sublist (objects given) := by
  induction given with
  | nil => exact List.Sublist.refl _
  | cons handout rest ih =>
      cases handout with
      | object ref => exact ih.cons _
      | function ref => exact ih
      | closure ref => exact ih
      | aggregate a => exact (ih.cons_cons _).cons_cons _

end Ledger

namespace Context

/-- One context comes from another while something is handed out: each object and each function under
the next number, and closures under the name of theirs. -/
structure Hands (c : Context) (given : List Handout) (d : Context) : Prop where
  objects : (Ledger.objects given).map ObjectRef.id =
    List.range' c.nextObject (Ledger.objects given).length
  functions : (Ledger.functions given).map FuncRef.id =
    List.range' c.nextFunction (Ledger.functions given).length
  named : ∀ f ∈ Ledger.closures given, f.name = closureName f.id
  nextObject : d.nextObject = c.nextObject + (Ledger.objects given).length
  nextFunction : d.nextFunction = c.nextFunction + (Ledger.functions given).length

namespace Hands

variable {c d e : Context} {given more : List Handout}

-- Nothing is handed out where the counters stay.
theorem nothing (object : d.nextObject = c.nextObject) (function : d.nextFunction = c.nextFunction) :
    c.Hands [] d where
  objects := rfl
  functions := rfl
  named := by
    intro f member
    cases member
  nextObject := object
  nextFunction := function

theorem trans (first : c.Hands given d) (second : d.Hands more e) : c.Hands (given ++ more) e where
  objects := by
    rw [Ledger.objects_append, List.map_append, first.objects, second.objects, first.nextObject,
      List.length_append, List.range'_append_1]
  functions := by
    rw [Ledger.functions_append, List.map_append, first.functions, second.functions,
      first.nextFunction, List.length_append, List.range'_append_1]
  named := by
    intro f member
    rw [Ledger.closures_append] at member
    rcases List.mem_append.mp member with earlier | later
    · exact first.named f earlier
    · exact second.named f later
  nextObject := by
    rw [second.nextObject, first.nextObject, Ledger.objects_append, List.length_append, Nat.add_assoc]
  nextFunction := by
    rw [second.nextFunction, first.nextFunction, Ledger.functions_append, List.length_append,
      Nat.add_assoc]

end Hands
end Context

theorem Aggregate.make_hands (c : Context) : c.Hands [.aggregate (make c).1] (make c).2 where
  objects := rfl
  functions := rfl
  named := by
    intro f member
    cases member
  nextObject := rfl
  nextFunction := rfl

theorem Aggregate.callProbe_hands (a : Aggregate) (form : CallForm) (c : Context) :
    c.Hands [] (a.callProbe form c).2 := by
  have grows := a.callProbe_grows form c
  exact .nothing grows.nextObject grows.nextFunction

-- A call that runs a factory body hands out the function of the closure that it returns, and nothing
-- if it fails.
theorem Context.Grows.hands {c d : Context} {calls : List Call} {caller : FuncRef} {n : Value}
    (grows : c.Grows (.emission c.sink calls caller n) d) (f : Factory) :
    c.Hands (Handout.ofResult
      (if c.sink.fits n then .ok (f.next n c) else .error (c.sink.overflow .stalled))) d := by
  have object := grows.nextObject
  have function := grows.nextFunction
  unfold Growth.emission at object function
  cases fits : c.sink.fits n with
  | false =>
      rw [fits] at function
      exact .nothing object function
  | true =>
      rw [fits] at function
      refine ⟨rfl, rfl, ?_, object, function⟩
      intro g member
      rw [List.mem_singleton.mp member]
      rfl

theorem Factory.invoke_hands (f : Factory) (n : Value) (c : Context) :
    c.Hands (Handout.ofResult (f.invoke n c).1) (f.invoke n c).2 := by
  rw [invoke_fst]
  exact (f.invoke_grows n c).hands f

theorem Closure.invoke_hands (f : Closure) (argument : Value) (c : Context) :
    c.Hands (Handout.ofResult (f.invoke argument c).1) (f.invoke argument c).2 := by
  rw [invoke_fst]
  exact (f.invoke_grows argument c).hands f.factory

namespace Program

theorem invokeEach_hands (f : Closure) (arguments : List Value) (c : Context) :
    c.Hands ((invocations f arguments c).flatMap Event.handouts) (invokeEach f arguments c).2 := by
  induction arguments generalizing c with
  | nil => exact .nothing rfl rfl
  | cons argument rest ih =>
      have call := f.invoke_hands argument c
      rw [invocations, invokeEach]
      generalize f.invoke argument c = answer at call
      obtain ⟨result, d⟩ := answer
      cases result with
      | error fault => exact call
      | ok g => exact call.trans (ih d)

theorem prepared_hands (c : Context) :
    c.Hands ((preface c).flatMap Event.handouts) (prepared c) := by
  have grows := prepared_grows c
  refine ⟨rfl, rfl, ?_, grows.nextObject, grows.nextFunction⟩
  intro f member
  cases member

theorem run_hands (capture : Value) (arguments : List Value) (c : Context) :
    c.Hands ((events capture arguments c).flatMap Event.handouts) (run capture arguments c).2 := by
  have call := (Aggregate.next c).factory.invoke_hands capture (prepared c)
  rw [called_fst] at call
  have first := (prepared_hands c).trans call
  rw [events_eq, List.flatMap_append]
  cases fits : c.sink.fits capture with
  | true =>
      have each := invokeEach_hands (closure capture c) arguments (called capture c)
      have both := first.trans each
      rw [fits, List.append_assoc] at both
      rw [run_of_fits fits]
      exact both
  | false =>
      rw [fits] at first
      rw [run_of_not_fits fits]
      exact first

theorem factoryOnly_hands (capture : Value) (c : Context) :
    c.Hands ((factoryOnlyEvents capture c).flatMap Event.handouts) (factoryOnly capture c).2 := by
  have call := (Aggregate.next c).factory.invoke_hands capture (Aggregate.make c).2
  have unfolded : factoryOnlyEvents capture c =
      [.made (Aggregate.next c), .called (Aggregate.next c) capture
        ((Aggregate.next c).factory.invoke capture (Aggregate.make c).2).1] := rfl
  rw [unfolded, List.flatMap_cons, List.flatMap_singleton, factoryOnly_eq]
  exact (Aggregate.make_hands c).trans call

theorem closure_handed {capture : Value} {arguments : List Value} {c : Context} {f : Closure}
    (result : (run capture arguments c).1 = .ok f) :
    f.func ∈ Ledger.closures ((events capture arguments c).flatMap Event.handouts) := by
  obtain ⟨event, happened, back⟩ := Chronicle.mem_returned.mp (returned_events result)
  apply List.mem_filterMap.mpr
  refine ⟨.closure f.func, List.mem_flatMap.mpr ⟨event, happened, ?_⟩, rfl⟩
  unfold Event.returned? at back
  split at back <;> cases back
  · exact List.mem_singleton_self _
  · exact List.mem_singleton_self _

end Program

namespace Session

def handouts (s : Session) : Operation → List Handout
  | .newObject name => [.object (s.context.newObject name).1]
  | .newFunction name => [.function (s.context.newFunction name).1]
  | .newClosureFunction => [.closure s.context.newClosureFunction.1]
  | .invokeFactory i argument =>
    match s.factories[i]?, s.value? argument with
    | some f, some v => Handout.ofResult (f.invoke v s.context).1
    | _, _ => []
  | operation => ((s.events? operation).getD []).flatMap Event.handouts

def ledger (s : Session) : List Operation → List Handout
  | [] => []
  | operation :: rest => s.handouts operation ++ (s.step operation).ledger rest

/-- A session that came from a context while something was handed out. All that it holds of its own is
among that. -/
structure Ledgered (c : Context) (given : List Handout) (s : Session) : Prop where
  hands : c.Hands given s.context
  objects : ∀ ref ∈ s.objects, ref ∈ Ledger.objects given
  functions : ∀ ref ∈ s.functions, ref ∈ Ledger.functions given
  aggregates : ∀ a ∈ s.aggregates, a ∈ Ledger.aggregates given
  closures : ∀ f ∈ s.closures, f.func ∈ Ledger.closures given

namespace Ledgered

variable {c d : Context} {given more : List Handout} {s : Session}

theorem fresh (mode : Mode) (sink : Sink) :
    Ledgered (.fresh mode sink) [] (Session.fresh mode sink) := by
  refine ⟨.nothing rfl rfl, ?_, ?_, ?_, ?_⟩
  all_goals
    intro ref member
    cases member

theorem after (ledgered : Ledgered c given s) (hands : s.context.Hands more d) :
    Ledgered c (given ++ more) (s.after d) := by
  refine ⟨ledgered.hands.trans hands, ?_, ?_, ?_, ?_⟩
  · intro ref member
    rw [Ledger.objects_append]
    exact List.mem_append_left _ (ledgered.objects ref member)
  · intro ref member
    rw [Ledger.functions_append]
    exact List.mem_append_left _ (ledgered.functions ref member)
  · intro a member
    rw [Ledger.aggregates_append]
    exact List.mem_append_left _ (ledgered.aggregates a member)
  · intro f member
    rw [Ledger.closures_append]
    exact List.mem_append_left _ (ledgered.closures f member)

theorem settle {answer : Except Fault Unit × Context} (ledgered : Ledgered c given s)
    (hands : s.context.Hands more answer.2) : Ledgered c (given ++ more) (s.settle answer).2 := by
  rcases answer with ⟨_ | _, d⟩
  · exact ledgered.after hands
  · exact ledgered.after hands

theorem keepClosure {answer : Except Fault Closure × Context} (ledgered : Ledgered c given s)
    (hands : s.context.Hands more answer.2)
    (back : ∀ f, answer.1 = .ok f → f.func ∈ Ledger.closures more) :
    Ledgered c (given ++ more) (s.keepClosure answer).2 := by
  have kept := ledgered.after hands
  rcases answer with ⟨fault | f, d⟩
  · exact kept
  · refine ⟨kept.hands, kept.objects, kept.functions, kept.aggregates, ?_⟩
    intro g member
    rcases List.mem_append.mp member with old | new
    · exact kept.closures g old
    · rw [List.mem_singleton.mp new, Ledger.closures_append]
      exact List.mem_append_right _ (back f rfl)

theorem makeAggregate (ledgered : Ledgered c given s) :
    Ledgered c (given ++ [.aggregate (Aggregate.make s.context).1]) (s.step .newAggregate) := by
  have kept := ledgered.after (Aggregate.make_hands s.context)
  refine ⟨kept.hands, kept.objects, kept.functions, ?_, kept.closures⟩
  intro a member
  rw [Ledger.aggregates_append]
  rcases List.mem_append.mp member with old | new
  · exact List.mem_append_left _ (ledgered.aggregates a old)
  · exact List.mem_append_right _ new

theorem step_driver (ledgered : Ledgered c given s) {operation : Operation}
    (driver : operation.isDriver = true) :
    Ledgered c (given ++ ((s.events? operation).getD []).flatMap Event.handouts)
      (s.step operation) := by
  rcases s.driver_cases driver with ⟨nothing, unseen⟩ | ⟨answer, more, performed, seen, happens⟩
  · rw [Session.step, nothing, unseen, Option.getD_none, List.flatMap_nil, List.append_nil]
    exact ledgered
  · rw [step_of_performed performed, seen, Option.getD_some]
    generalize s.emission? operation = emission at happens
    cases happens with
    | made => exact ledgered.makeAggregate
    | probed member form => exact ledgered.after (Aggregate.callProbe_hands _ form s.context)
    | called member v =>
        rw [List.flatMap_singleton]
        apply ledgered.keepClosure (Factory.invoke_hands _ v s.context)
        intro f result
        exact Ledger.mem_closures_ofResult result
    | invoked member v =>
        rw [List.flatMap_singleton]
        apply ledgered.keepClosure (Closure.invoke_hands _ v s.context)
        intro f result
        exact Ledger.mem_closures_ofResult result
    | ran v values =>
        apply ledgered.keepClosure (Program.run_hands v values s.context)
        intro f result
        exact Program.closure_handed result
    | ranFactory v => exact ledgered.settle (Program.factoryOnly_hands v s.context)

theorem keepFunction {ref : FuncRef} (ledgered : Ledgered c given s) (hands : s.context.Hands more d)
    (handed : ref ∈ Ledger.functions more) :
    Ledgered c (given ++ more) { s with context := d, functions := s.functions ++ [ref] } := by
  have kept := ledgered.after hands
  refine ⟨kept.hands, kept.objects, ?_, kept.aggregates, kept.closures⟩
  intro other member
  rcases List.mem_append.mp member with old | new
  · exact kept.functions other old
  · rw [List.mem_singleton.mp new, Ledger.functions_append]
    exact List.mem_append_right _ handed

theorem newObject (ledgered : Ledgered c given s) (name : String) :
    Ledgered c (given ++ [.object (s.context.newObject name).1]) (s.step (.newObject name)) := by
  have hands : s.context.Hands [.object (s.context.newObject name).1]
      (s.context.newObject name).2 := ⟨rfl, rfl, nofun, rfl, rfl⟩
  have kept := ledgered.after hands
  refine ⟨kept.hands, ?_, kept.functions, kept.aggregates, kept.closures⟩
  intro ref member
  rw [Ledger.objects_append]
  rcases List.mem_append.mp member with old | new
  · exact List.mem_append_left _ (ledgered.objects ref old)
  · exact List.mem_append_right _ new

theorem newFunction (ledgered : Ledgered c given s) (name : String) :
    Ledgered c (given ++ [.function (s.context.newFunction name).1])
      (s.step (.newFunction name)) := by
  have hands : s.context.Hands [.function (s.context.newFunction name).1]
      (s.context.newFunction name).2 := ⟨rfl, rfl, nofun, rfl, rfl⟩
  exact ledgered.keepFunction hands (List.mem_singleton_self _)

theorem newClosureFunction (ledgered : Ledgered c given s) :
    Ledgered c (given ++ [.closure s.context.newClosureFunction.1])
      (s.step .newClosureFunction) := by
  have hands : s.context.Hands [.closure s.context.newClosureFunction.1]
      s.context.newClosureFunction.2 := by
    refine ⟨rfl, rfl, ?_, rfl, rfl⟩
    intro f member
    rw [List.mem_singleton.mp member]
    rfl
  exact ledgered.keepFunction hands (List.mem_singleton_self _)

theorem invokeFactory (ledgered : Ledgered c given s) (i : Nat) (argument : Operand) :
    Ledgered c (given ++ s.handouts (.invokeFactory i argument))
      (s.step (.invokeFactory i argument)) := by
  simp only [Session.step, perform, handouts]
  cases s.factories[i]? with
  | none =>
      rw [List.append_nil]
      exact ledgered
  | some f =>
      cases s.value? argument with
      | none =>
          rw [List.append_nil]
          exact ledgered
      | some v =>
          apply ledgered.keepClosure (f.invoke_hands v s.context)
          intro g result
          exact Ledger.mem_closures_ofResult result

theorem step (ledgered : Ledgered c given s) (operation : Operation) :
    Ledgered c (given ++ s.handouts operation) (s.step operation) := by
  -- what only looks around or moves in the call stack leaves the counters where they are
  have quiet {next : Context} (object : next.nextObject = s.context.nextObject)
      (function : next.nextFunction = s.context.nextFunction) :
      Ledgered c (given ++ []) (s.after next) := ledgered.after (.nothing object function)
  cases operation with
  | newObject name => exact ledgered.newObject name
  | newFunction name => exact ledgered.newFunction name
  | newClosureFunction => exact ledgered.newClosureFunction
  | invokeFactory i argument => exact ledgered.invokeFactory i argument
  | newFactory func =>
      simp only [Session.step, perform]
      cases s.function? func with
      | none => exact quiet rfl rfl
      | some f =>
          have kept : Ledgered c (given ++ []) (s.after s.context) := quiet rfl rfl
          exact ⟨kept.hands, kept.objects, kept.functions, kept.aggregates, kept.closures⟩
  | enter func callType =>
      simp only [Session.step, perform]
      cases s.function? func with
      | none => exact quiet rfl rfl
      | some f => exact quiet rfl rfl
  | leave =>
      refine quiet ?_ ?_
      all_goals
        unfold Context.leave
        split <;> rfl
  | emit value =>
      simp only [Session.step, perform]
      cases s.value? value with
      | none => exact quiet rfl rfl
      | some v =>
          have hands : s.context.Hands [] (s.context.emit v).2 := by
            rw [Context.emit_eq]
            exact .nothing rfl rfl
          exact ledgered.settle hands
  | observeReceiver callType receiver =>
      simp only [Session.step, perform]
      cases s.value? receiver with
      | none => exact quiet rfl rfl
      | some v => exact quiet rfl rfl
  | flush =>
      have hands : s.context.Hands [] s.context := .nothing rfl rfl
      exact ledgered.settle hands
  | newAggregate => exact ledgered.step_driver rfl
  | probeImplicit i => exact ledgered.step_driver rfl
  | probeExplicit i receiver => exact ledgered.step_driver rfl
  | probeThrough i base => exact ledgered.step_driver rfl
  | callFactory i argument => exact ledgered.step_driver rfl
  | invokeClosure i argument => exact ledgered.step_driver rfl
  | runProgram capture arguments => exact ledgered.step_driver rfl
  | runFactoryOnly capture => exact ledgered.step_driver rfl

-- All that a session hands out is in its ledger.
theorem runAll (operations : List Operation) (ledgered : Ledgered c given s) :
    Ledgered c (given ++ s.ledger operations) (s.runAll operations) := by
  induction operations generalizing given s with
  | nil =>
      rw [ledger, List.append_nil]
      exact ledgered
  | cons operation rest ih =>
      have tail := ih (ledgered.step operation)
      rw [List.append_assoc] at tail
      exact tail

end Ledgered
end Session

end CaptureProbe
