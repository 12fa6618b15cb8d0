import CaptureProbe.Session
import CaptureProbe.Proofs.ProgramRun

/-!
Steps of a session: an operation either changes nothing or is performed, and what it leaves behind is
the context that its call returned, with the closure kept if there is one.
-/

namespace CaptureProbe

theorem Program.factoryOnly_eq (capture : Value) (c : Context) :
    factoryOnly capture c =
      (((Aggregate.next c).factory.invoke capture (Aggregate.make c).2).1.map fun _ => (),
        ((Aggregate.next c).factory.invoke capture (Aggregate.make c).2).2) := by
  change _ = (((Aggregate.make c).1.callFactory capture (Aggregate.make c).2).1.map fun _ => (),
    ((Aggregate.make c).1.callFactory capture (Aggregate.make c).2).2)
  rw [factoryOnly]
  generalize Aggregate.make c = made
  obtain ⟨a, d⟩ := made
  dsimp only
  generalize a.callFactory capture d = answer
  obtain ⟨result, after⟩ := answer
  cases result <;> rfl

namespace Outcome

def fails : Outcome → Bool
  | .failed _ => true
  | _ => false

theorem fails_iff (outcome : Outcome) : outcome.fails = true ↔ ∃ fault, outcome = .failed fault := by
  cases outcome <;> simp [fails]

end Outcome

namespace Session

@[simp] theorem context_keepClosure (s : Session) (answer : Except Fault Closure × Context) :
    (s.keepClosure answer).2.context = answer.2 := by
  rcases answer with ⟨_ | _, c⟩ <;> rfl

@[simp] theorem fails_keepClosure (s : Session) (answer : Except Fault Closure × Context) :
    (s.keepClosure answer).1.fails = !answer.1.isOk := by
  rcases answer with ⟨_ | _, c⟩ <;> rfl

@[simp] theorem context_settle (s : Session) (answer : Except Fault Unit × Context) :
    (s.settle answer).2.context = answer.2 := by
  rcases answer with ⟨_ | _, c⟩ <;> rfl

@[simp] theorem fails_settle (s : Session) (answer : Except Fault Unit × Context) :
    (s.settle answer).1.fails = !answer.1.isOk := by
  rcases answer with ⟨_ | _, c⟩ <;> rfl

theorem step_cases (s : Session) (operation : Operation) :
    s.step operation = s ∨ ∃ outcome, s.perform operation = some (outcome, s.step operation) := by
  unfold step
  cases performed : s.perform operation with
  | none => exact Or.inl rfl
  | some answer => exact Or.inr ⟨answer.1, rfl⟩

theorem step_of_performed {s : Session} {operation : Operation} {answer : Outcome × Session}
    (performed : s.perform operation = some answer) : s.step operation = answer.2 := by
  rw [step, performed]

end Session
end CaptureProbe
