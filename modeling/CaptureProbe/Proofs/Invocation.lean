import CaptureProbe.Program
import CaptureProbe.Proofs.Emission

/-!
What the calls of a session add. Making an aggregate, calling its probe, calling a factory and calling
a closure each leave the call stack as they found it, on success and on failure, and grow the context
by an amount that the context before the call determines.
-/

namespace CaptureProbe

/-- What a call adds that runs a factory body: `calls` lead to the body, `caller` is who called the
factory. The value is observed, and a function given out, if its line fits. -/
def Growth.emission (sink : Sink) (calls : List Call) (caller : FuncRef) (n : Value) : Growth where
  calls := calls
  sightings := if sink.fits n then [.emitted caller.name n] else []
  bytes := sink.part n.lineBytes
  functions := if sink.fits n then 1 else 0

theorem Context.Grows.sink_of_fits {c d : Context} {calls : List Call} {caller : FuncRef} {n : Value}
    (grows : c.Grows (.emission c.sink calls caller n) d) (fits : c.sink.fits n = true) :
    d.sink = c.sink.append n.lineBytes := by
  rw [grows.sink, Growth.emission, Sink.part_of_fits fits]

namespace Aggregate

def next (c : Context) : Aggregate where
  object := ⟨c.nextObject, "aggregate"⟩
  holder := ⟨c.nextObject + 1, "probe"⟩
  probe := ⟨c.nextFunction, "probe"⟩
  factory := ⟨⟨c.nextFunction + 1, "factory"⟩⟩

theorem make_fst (c : Context) : (make c).1 = next c := rfl

theorem make_grows (c : Context) :
    c.Grows { objects := 2, functions := 2 } (make c).2 where
  realm := rfl
  calls := rfl
  sink := (Sink.append_nil _).symm
  graph := rfl
  trace := (Trace.observe_nil _).symm
  nextObject := rfl
  nextFunction := rfl
  nextSite := rfl

theorem callProbe_grows (a : Aggregate) (form : CallForm) (c : Context) :
    c.Grows
      { calls := [⟨c.current, a.probe, form.callType⟩]
        sightings := [.receiver form.callType form.receiver] }
      (a.callProbe form c).2 := by
  have inside : (c.enter a.probe form.callType).Grows
      { sightings := [.receiver form.callType form.receiver] }
      ((c.enter a.probe form.callType).observeReceiver form.callType form.receiver) :=
    ⟨rfl, rfl, (Sink.append_nil _).symm, rfl, rfl, rfl, rfl, rfl⟩
  exact inside.within

end Aggregate

namespace Factory

def next (f : Factory) (n : Value) (c : Context) : Closure where
  func := ⟨c.nextFunction, Context.closureName c.nextFunction⟩
  captured := n
  factory := f

theorem body_fst (f : Factory) (n : Value) (c : Context) :
    (f.body n c).1 =
      if c.sink.fits n then .ok (f.next n c) else .error (c.sink.overflow .stalled) := by
  rw [body, Context.emit_eq]
  by_cases fits : c.sink.fits n = true
  · simp only [fits, if_true]
    rfl
  · simp only [fits]
    rfl

theorem body_grows (f : Factory) (n : Value) (c : Context) :
    c.Grows (.emission c.sink [] c.caller n) (f.body n c).2 := by
  rw [body, Context.emit_eq, Growth.emission]
  by_cases fits : c.sink.fits n = true
  · simp only [fits, if_true]
    exact ⟨rfl, rfl, rfl, rfl, rfl, rfl, rfl, rfl⟩
  · simp only [fits]
    exact ⟨rfl, rfl, rfl, rfl, rfl, rfl, rfl, rfl⟩

theorem invoke_fst (f : Factory) (n : Value) (c : Context) :
    (f.invoke n c).1 =
      if c.sink.fits n then .ok (f.next n c) else .error (c.sink.overflow .stalled) :=
  f.body_fst n (c.enter f.func .direct)

-- Inside the call the caller of the factory is the function that was current before it.
theorem invoke_grows (f : Factory) (n : Value) (c : Context) :
    c.Grows (.emission c.sink [⟨c.current, f.func, .direct⟩] c.current n) (f.invoke n c).2 :=
  (f.body_grows n (c.enter f.func .direct)).within

end Factory

namespace Closure

theorem invoke_fst (f : Closure) (argument : Value) (c : Context) :
    (f.invoke argument c).1 =
      if c.sink.fits f.captured then .ok (f.factory.next f.captured c)
      else .error (c.sink.overflow .stalled) :=
  f.factory.invoke_fst f.captured _

theorem invoke_grows (f : Closure) (argument : Value) (c : Context) :
    c.Grows
      (.emission c.sink [⟨c.current, f.func, .closure⟩, ⟨f.func, f.factory.func, .direct⟩] f.func
        f.captured)
      (f.invoke argument c).2 := by
  have inside := f.factory.invoke_grows f.captured ((c.enter f.func .closure).note .trace .closures
    (f.func.name ++ " ignores its argument " ++ argument.display))
  have entered : (c.enter f.func .closure).Grows
      (.emission c.sink [⟨f.func, f.factory.func, .direct⟩] f.func f.captured) _ :=
    ⟨inside.realm, inside.calls, inside.sink, inside.graph, inside.trace, inside.nextObject,
      inside.nextFunction, inside.nextSite⟩
  exact entered.within

end Closure
end CaptureProbe
