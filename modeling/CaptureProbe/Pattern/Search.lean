import CaptureProbe.Pattern.Basic

/-!
Search for patterns. A pattern takes a set of offsets, at which matches begin, to the set of offsets at
which they can end. Sets of offsets are the bits of a natural number.
-/

namespace CaptureProbe.Pattern

def bits : List Bool → Nat
  | [] => 0
  | b :: rest => 2 * bits rest + b.toNat

def places (before : Option Char) : List Char → List (Option Char × Option Char)
  | [] => [(before, none)]
  | c :: rest => (before, some c) :: places (some c) rest

def without (a b : Nat) : Nat := a ^^^ (a &&& b)

/-- Goes a number of steps, each from all the offsets that were reached by the one before. The result is
the set before the last step and the set after it; a step that changes nothing is the last. -/
def steps (step : Nat → Nat) : Nat → Nat → Nat → Nat × Nat
  | 0, before, now => (before, now)
  | count + 1, before, now =>
    if now = before then (before, now) else steps step count now (step now)

/-- The offsets that are reached in at most a number of steps, when only from the fresh ones among them
a step can lead on. -/
def reach (step : Nat → Nat) : Nat → Nat → Nat → Nat
  | 0, seen, _ => seen
  | count + 1, seen, fresh =>
    if fresh = 0 then seen
    else
      let next := step fresh
      reach step count (seen ||| next) (without next seen)

def cross (text : List Char) (p : Char → Bool) (offsets : Nat) : Nat :=
  if offsets = 0 then 0 else (offsets &&& bits (text.map p)) <<< 1

/-- The offsets at which a match can end that begins at one of the given offsets and consists of usable
characters. A text of `n` characters is crossed in `n` steps at most, and a path of more than `n`
steps rests at some offset, where it can rest as often as needed. So no repetition has to be followed
further than `n + 1` times. -/
def ends (text : List Char) (usable : Char → Bool) : Pattern → Nat → Nat
  | .empty, offsets => offsets
  | .literal cs, offsets =>
    cs.foldl (fun offsets c => cross text (fun d => d = c && usable d) offsets) offsets
  | .one set _, offsets => cross text (fun d => set.contains d && usable d) offsets
  | .anchor a, offsets =>
    offsets &&& bits ((places none text).map fun place => a.holds place.1 place.2)
  | .scriptAnchor a, offsets =>
    offsets &&& bits ((places none text).map fun place => a.holds place.1 place.2)
  | .capture _ p, offsets => ends text usable p offsets
  | .seq p q, offsets => ends text usable q (ends text usable p offsets)
  | .either p q, offsets => ends text usable p offsets ||| ends text usable q offsets
  | .repeated p least most _, offsets =>
    let bound := text.length + 1
    let (before, now) := steps (ends text usable p) (min least bound) 0 offsets
    let more := match most with
      | none => bound
      | some most => min (most - least) bound
    reach (ends text usable p) more now (without now before)

def matchesInside : Pattern → Bool
  | .empty => true
  | .anchor a => a.holdsInside
  | .scriptAnchor a => a.holdsInside
  | .capture _ p => p.matchesInside
  | .seq p q => p.matchesInside && q.matchesInside
  | .either p q => p.matchesInside || q.matchesInside
  | .repeated p least _ _ => least = 0 || p.matchesInside
  | _ => false

/-- Whether a pattern has a match anywhere in a text. A search takes the match that ends first. If
that is inside of a character it counts for nothing, and the search goes on from there: then no match
with such a character in it is ever found. -/
def occursIn (p : Pattern) (text : String) : Bool :=
  let cs := text.toList
  let inside := p.matchesInside
  let usable (c : Char) : Bool := !inside || c < '\x80'
  ends cs usable p (bits (List.replicate (cs.length + 1) true)) != 0

end CaptureProbe.Pattern
