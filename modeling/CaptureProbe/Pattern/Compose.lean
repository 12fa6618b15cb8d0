import CaptureProbe.Pattern.Basic

/-!
Patterns from parts, in their simplest form: what is empty is left out, neighbouring literals are one
literal, sequences and choices are flat, and what all branches of a choice begin with is written once.
-/

namespace CaptureProbe.Pattern

def oneOf (set : CharSet) (bytes : Bool) : Pattern :=
  if set.isEmpty then never
  else match set.single? with
    | some c => .literal [c]
    | none => .one set bytes

/-- A repetition. What has empty matches only needs no second time. -/
def repeatOf (p : Pattern) (least : Nat) (most : Option Nat) (greedy : Bool) : Pattern :=
  let least := if p.isWeightless then min least 1 else least
  let most := if p.isWeightless then some (min (most.getD 1) 1) else most
  if least = 0 ∧ most = some 0 then .empty
  else if least = 1 ∧ most = some 1 then p
  else .repeated p least most greedy

def joinLiterals : List Pattern → List Pattern
  | [] => []
  | .literal a :: rest =>
    match joinLiterals rest with
    | .literal b :: more => .literal (a ++ b) :: more
    | more => .literal a :: more
  | p :: rest => p :: joinLiterals rest

def ofItems : List Pattern → Pattern
  | [] => .empty
  | [p] => p
  | p :: rest => .seq p (ofItems rest)

def sequenceOf (parts : List Pattern) : Pattern := ofItems (joinLiterals (parts.flatMap items))

def ofBranches : List Pattern → Pattern
  | [] => never
  | [p] => p
  | p :: rest => .either p (ofBranches rest)

def char? : Pattern → Option Char
  | .literal [c] => some c
  | _ => none

def set? : Pattern → Option CharSet
  | .one set _ => some set
  | _ => none

def setOfBranches? (branches : List Pattern) : Option CharSet :=
  match branches.mapM char? with
  | some cs => some (CharSet.ofIntervals (cs.map fun c => (c.toNat, c.toNat)))
  | none => (branches.mapM set?).map fun sets => sets.foldl CharSet.union .none

def sharedFront : List Pattern → List Pattern → List Pattern
  | p :: ps, q :: qs => if p = q then p :: sharedFront ps qs else []
  | _, _ => []

def frontOfBranches : List Pattern → List Pattern
  | [] => []
  | p :: rest =>
    if (p :: rest).all (2 ≤ ·.items.length) then
      rest.foldl (fun front q => sharedFront front q.items) p.items
    else []

def plainChoice (branches : List Pattern) : Pattern :=
  if branches.length ≤ 1 then ofBranches branches
  else match setOfBranches? branches with
    | some set => oneOf set false
    | none => ofBranches branches

/-- A choice. Behind what all branches begin with, no two sequences begin alike. -/
def choiceOf (parts : List Pattern) : Pattern :=
  let branches := parts.flatMap branches
  let front := if (setOfBranches? branches).isSome || branches.length ≤ 1 then []
    else frontOfBranches branches
  if front = [] then plainChoice branches
  else
    let rests := branches.map fun p => ofItems (p.items.drop front.length)
    sequenceOf (front ++ [plainChoice (rests.flatMap Pattern.branches)])

end CaptureProbe.Pattern
