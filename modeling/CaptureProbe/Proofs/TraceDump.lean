import CaptureProbe.Trace
import CaptureProbe.Proofs.JsonTree

/-!
The dump of a trace says of each observation all but the identity behind its value: whether it is an
emission or a receiver, its number, for whom or by what type of call, and the kind and the printed form
of the value. Whatever callers are named and values are printed as, no observation can be taken for
another one or for two.
-/

namespace CaptureProbe

structure Observation.Shown where
  seq : Nat
  /-- The caller of an emission, or the type of the call that passed a receiver. -/
  source : String ⊕ CallType
  kind : String
  printed : String
  deriving DecidableEq

namespace Observation

def shown : Observation → Shown
  | .emitted seq caller value => ⟨seq, .inl caller, value.kind, value.display⟩
  | .receiver seq callType value => ⟨seq, .inr callType, value.kind, value.display⟩

namespace Shown

def valueTree (s : Shown) : Json.Tree :=
  .record [("kind", .string s.kind), ("repr", .string s.printed)]

def tree (s : Shown) : Json.Tree :=
  match s.source with
  | .inl caller =>
    .record [("kind", .string "emitted"), ("seq", .natural s.seq), ("caller", .string caller),
      ("value", s.valueTree)]
  | .inr callType =>
    .record [("kind", .string "receiver"), ("seq", .natural s.seq),
      ("call_type", .string callType.display), ("value", s.valueTree)]

theorem tree_injective {s t : Shown} (same : s.tree = t.tree) : s = t := by
  obtain ⟨seq, source, kind, printed⟩ := s
  obtain ⟨number, other, sort, text⟩ := t
  cases source with
  | inl caller =>
      cases other with
      | inl name => simpa [tree, valueTree] using same
      | inr callType => simp [tree] at same
  | inr callType =>
      cases other with
      | inl name => simp [tree] at same
      | inr form =>
          simp only [tree, valueTree, Json.Tree.record.injEq, List.cons.injEq, Prod.mk.injEq,
            Json.Tree.string.injEq, Json.Tree.natural.injEq, true_and, and_true] at same
          obtain ⟨rfl, types, rfl, rfl⟩ := same
          rw [CallType.display_injective types]

end Shown

theorem json_eq (style : Json.Style) (depth : Nat) (o : Observation) :
    o.json style depth = o.shown.tree.write style depth := by
  cases o with
  | emitted seq caller value => rfl
  | receiver seq callType value => rfl

end Observation

namespace Trace

def tree (shown : List Observation.Shown) : Json.Tree := .list (shown.map Observation.Shown.tree)

theorem dump_eq (t : Trace) :
    t.dump = (tree (t.observations.map Observation.shown)).write .pretty 0 := by
  have members : t.observations.map (Observation.json .pretty 1) =
      ((t.observations.map Observation.shown).map Observation.Shown.tree).map
        (Json.Tree.write .pretty 1) := by
    rw [List.map_map, List.map_map]
    exact List.map_congr_left fun o _ => o.json_eq .pretty 1
  rw [dump, members, tree, Json.Tree.write_list, Json.Style.list]

/-- Two traces have one dump if and only if they have as many observations and each shows the same in
both: its variant, its number, its caller or call type, and the kind and printed form of its value. -/
theorem dump_shows_observations (t u : Trace) :
    t.dump = u.dump ↔
      t.observations.map Observation.shown = u.observations.map Observation.shown := by
  constructor
  · intro same
    rw [dump_eq, dump_eq] at same
    have members := Json.Tree.list.inj (Json.Tree.write_injective .pretty 0 same)
    exact (List.map_inj_right fun _ _ => Observation.Shown.tree_injective).mp members
  · intro same
    rw [dump_eq, dump_eq, same]

end Trace
end CaptureProbe
