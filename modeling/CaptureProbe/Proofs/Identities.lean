import CaptureProbe.Proofs.CaptureInvariance
import CaptureProbe.Proofs.ContextOperations
import CaptureProbe.Proofs.Ledger

/-!
Nothing is handed out twice in a session, whatever its operations. Numbers grow in the order in which
they are given and begin above those of the top level and of the objects of the realm. So closures have
names of their own, and the holder of an aggregate is not to be taken for any other object.
-/

namespace CaptureProbe

-- Programs tell objects with different numbers apart.
theorem Value.equal_object_of_id {o ref : ObjectRef} (other : o.id ≠ ref.id) :
    (Value.object o).equal (.object ref) = false := by
  have different : Value.object o ≠ .object ref := by
    intro same
    exact other (congrArg ObjectRef.id (Value.object.inj same))
  simp [equal, different]

/-- The holder of an aggregate is seen by its probe, and is neither what a call at the top level passes
nor the aggregate itself. -/
structure Aggregate.Apart (a : Aggregate) (c : Context) : Prop where
  seen : (a.probeImplicit c).1 = .object a.holder
  ambient : (Value.object a.holder).equal c.realm.ambient = false
  object : (Value.object a.holder).equal (.object a.object) = false

/-- Everything of a ledger has a number of its own, in order, and no number that was there before. The
counters of the context stand behind it. -/
structure Ledger.Fresh (given : List Handout) (c : Context) : Prop where
  functions : (Ledger.functions given).Pairwise fun f g => f.id < g.id
  objects : (Ledger.objects given).Pairwise fun a b => a.id < b.id
  top : ∀ f ∈ Ledger.functions given, f.id ≠ FuncRef.top.id
  realm : ∀ ref ∈ Ledger.objects given,
    ref.id ≠ c.realm.global.id ∧ ref.id ≠ c.realm.exports.id
  nextFunction : c.nextFunction = FuncRef.top.id + 1 + (Ledger.functions given).length
  nextObject : c.nextObject = c.realm.exports.id + 1 + (Ledger.objects given).length
  names : ∀ f ∈ Ledger.closures given, f.name = "closure#" ++ Nat.repr f.id

namespace Ledger.Fresh

variable {given : List Handout} {c : Context}

theorem names_differ (fresh : Fresh given c) : (closures given).Pairwise (·.name ≠ ·.name) := by
  have ids := fresh.functions.sublist (closures_sublist given)
  refine ids.imp_of_mem ?_
  intro f g first second less same
  rw [fresh.names f first, fresh.names g second] at same
  have numbers : f.id = g.id := Context.closureName_injective same
  omega

-- The objects of the aggregates in a row: in each the aggregate is before its holder, and those of one
-- are before those of the next.
theorem members (fresh : Fresh given c) :
    (∀ a ∈ aggregates given, a.object.id < a.holder.id) ∧
      (aggregates given).Pairwise fun a b => a.holder.id < b.holder.id := by
  have ids := fresh.objects.sublist (members_sublist given)
  rw [List.pairwise_flatMap] at ids
  refine ⟨?_, ids.2.imp ?_⟩
  · intro a member
    exact (List.pairwise_cons.mp (ids.1 a member)).1 a.holder (List.mem_singleton_self _)
  · intro a b less
    exact less a.holder (by simp) b.holder (by simp)

theorem holder_mem {a : Aggregate} (member : a ∈ aggregates given) :
    a.holder ∈ Ledger.objects given := by
  apply (members_sublist given).subset
  exact List.mem_flatMap.mpr ⟨a, member, by simp⟩

theorem apart (fresh : Fresh given c) {a : Aggregate} (member : a ∈ aggregates given) :
    a.Apart c where
  seen := rfl
  ambient := by
    obtain ⟨global, exports⟩ := fresh.realm a.holder (holder_mem member)
    unfold Realm.ambient
    split
    · rfl
    · exact Value.equal_object_of_id global
    · exact Value.equal_object_of_id exports
  object := by
    have less := fresh.members.1 a member
    exact Value.equal_object_of_id (by omega)

theorem holders_differ (fresh : Fresh given c) :
    (aggregates given).Pairwise fun a b =>
      (Value.object a.holder).equal (.object b.holder) = false := by
  refine fresh.members.2.imp ?_
  intro a b less
  exact Value.equal_object_of_id (by omega)

end Ledger.Fresh

namespace Session

theorem realm_runAll (mode : Mode) (sink : Sink) (operations : List Operation) :
    ((fresh mode sink).runAll operations).context.realm = (Context.fresh mode sink).realm := by
  have kept : Context.Kept fun c => c.realm = (Context.fresh mode sink).realm := by
    constructor
    · intro c same _ _ _
      exact same
    · intro c same _
      exact same
    · intro c same _
      exact same
    · intro c same _ _
      exact same
    · intro c same
      unfold Context.leave
      split <;> exact same
    · intro c same v
      rw [Context.emit_eq]
      exact same
    · intro c same _ _
      exact same
  exact runAll_kept kept rfl operations

-- Entries with consecutive numbers are in order, and none is below the first number.
theorem ordered_of_numbered {α : Type} {number : α → Nat} {entries : List α} {first : Nat}
    (numbers : entries.map number = List.range' first entries.length) :
    (entries.Pairwise fun a b => number a < number b) ∧ ∀ a ∈ entries, first ≤ number a := by
  constructor
  · apply List.pairwise_map.mp
    rw [numbers]
    exact List.pairwise_lt_range'
  · intro a member
    have among := List.mem_map_of_mem (f := number) member
    rw [numbers, List.mem_range'_1] at among
    exact among.1

theorem ledger_fresh (mode : Mode) (sink : Sink) (operations : List Operation) :
    Ledger.Fresh ((fresh mode sink).ledger operations)
      ((fresh mode sink).runAll operations).context := by
  have hands := ((Ledgered.fresh mode sink).runAll operations).hands
  have realm := realm_runAll mode sink operations
  rw [List.nil_append] at hands
  obtain ⟨functions, aboveTop⟩ := ordered_of_numbered hands.functions
  obtain ⟨objects, aboveRealm⟩ := ordered_of_numbered hands.objects
  refine ⟨functions, objects, ?_, ?_, hands.nextFunction, ?_, hands.named⟩
  · intro f member
    exact Nat.ne_of_gt (aboveTop f member)
  · intro ref member
    have above : 2 ≤ ref.id := aboveRealm ref member
    have global : (Context.fresh mode sink).realm.global.id = 0 := rfl
    have exports : (Context.fresh mode sink).realm.exports.id = 1 := rfl
    rw [realm, global, exports]
    omega
  · rw [realm]
    exact hands.nextObject

/-- After any operations, in any mode and into any sink. Objects and functions were handed out in the
order of their numbers, all of them to be found in the ledger; a call that fails hands out nothing; no
two closures have one name; and each aggregate, however long ago it was made and whoever holds it, has a
holder apart from all other objects that a probe may see. -/
theorem identities_are_fresh (mode : Mode) (sink : Sink) (operations : List Operation) :
    let start := fresh mode sink
    let given := start.ledger operations
    let s := start.runAll operations
    let c := s.context
    Ledgered start.context given s ∧ Ledger.Fresh given c ∧
      (∀ (f : Factory) (n : Value) (fault : Fault), (f.invoke n c).1 = .error fault →
        (f.invoke n c).2.nextFunction = c.nextFunction ∧
          (f.invoke n c).2.nextObject = c.nextObject) ∧
      (∀ (f : Closure) (argument : Value) (fault : Fault), (f.invoke argument c).1 = .error fault →
        (f.invoke argument c).2.nextFunction = c.nextFunction ∧
          (f.invoke argument c).2.nextObject = c.nextObject) ∧
      (Ledger.closures given).Pairwise (·.name ≠ ·.name) ∧
      (∀ a ∈ Ledger.aggregates given, a.Apart c) ∧
      (Ledger.aggregates given).Pairwise fun a b =>
        (Value.object a.holder).equal (.object b.holder) = false := by
  intro start given s c
  have fresh : Ledger.Fresh given c := ledger_fresh mode sink operations
  refine ⟨(Ledgered.fresh mode sink).runAll operations, fresh, ?_, ?_, fresh.names_differ, ?_,
    fresh.holders_differ⟩
  · intro f n fault failed
    have hands := f.invoke_hands n c
    rw [failed] at hands
    exact ⟨hands.nextFunction, hands.nextObject⟩
  · intro f argument fault failed
    have hands := f.invoke_hands argument c
    rw [failed] at hands
    exact ⟨hands.nextFunction, hands.nextObject⟩
  · intro a member
    exact fresh.apart member

/-- A run that is cut between two aggregates: what it made and dropped has numbers, the call that
failed in it and one after it have none. -/
theorem identities_are_fresh_past_cut :
    let operations : List Operation := [.newObject "probe", .newAggregate, .newClosureFunction,
      .callFactory 0 (.constant .null), .runProgram .ambient [.top, .top], .invokeFactory 0 .ambient,
      .newAggregate]
    let start := fresh .module { limit := some 50 }
    let given := start.ledger operations
    let s := start.runAll operations
    (Ledger.functions given).map FuncRef.id = [1, 2, 3, 4, 5, 6, 7, 8, 9, 10] ∧
      (Ledger.closures given).map FuncRef.name =
        ["closure#3", "closure#4", "closure#7", "closure#8"] ∧
      (Ledger.objects given).map ObjectRef.id = [2, 3, 4, 5, 6, 7, 8] ∧
      (∃ fault, (Factory.invoke ⟨.top⟩ .undefined s.context).1 = .error fault ∧
        (Factory.invoke ⟨.top⟩ .undefined s.context).2.nextFunction = s.context.nextFunction) ∧
      ∀ a ∈ s.aggregates, a.Apart s.context := by
  intro operations
  dsimp only
  obtain ⟨ledgered, -, calls, -, -, apart, -⟩ :=
    identities_are_fresh .module { limit := some 50 } operations
  have failed := calls ⟨.top⟩ .undefined (.closed .brokenPipe) (by decide +kernel)
  refine ⟨by decide +kernel, by decide +kernel, by decide +kernel, ?_, ?_⟩
  · exact ⟨.closed .brokenPipe, by decide +kernel, failed.1⟩
  · intro a member
    exact apart a (ledgered.aggregates a member)

end Session
end CaptureProbe
