/-!
Sets of characters, as closed intervals of code points in increasing order. Two intervals of a set
neither overlap nor have code points next to each other, so equal lists of characters and ranges give
equal sets.
-/

namespace CaptureProbe

abbrev Interval := Nat × Nat

namespace Interval

def contains (i : Interval) (n : Nat) : Bool := i.1 ≤ n && n ≤ i.2

def between (a b : Nat) : Interval := (min a b, max a b)

def inter? (i j : Interval) : Option Interval :=
  if max i.1 j.1 ≤ min i.2 j.2 then some (max i.1 j.1, min i.2 j.2) else none

end Interval

structure CharSet where
  intervals : List Interval := []
  deriving DecidableEq, Repr

namespace CharSet

def lastCode : Nat := 0x10FFFF

/-- The character behind a code point; the surrogates are no characters. -/
def codeAfter (code : Nat) : Nat := if code = 0xD7FF then 0xE000 else code + 1

def codeBefore (code : Nat) : Nat := if code = 0xE000 then 0xD7FF else code - 1

def insertInterval (i : Interval) : List Interval → List Interval
  | [] => [i]
  | j :: rest =>
    if i.2 + 1 < j.1 then i :: j :: rest
    else if j.2 + 1 < i.1 then j :: insertInterval i rest
    else insertInterval (min i.1 j.1, max i.2 j.2) rest

def ofIntervals (intervals : List Interval) : CharSet :=
  ⟨intervals.foldl (fun done i => insertInterval i done) []⟩

def none : CharSet := {}

def interval (first last : Char) : CharSet := ⟨[(first.toNat, last.toNat)]⟩

def single (c : Char) : CharSet := interval c c

def isEmpty (s : CharSet) : Bool := s.intervals.isEmpty

def contains (s : CharSet) (c : Char) : Bool := s.intervals.any (·.contains c.toNat)

def size (s : CharSet) : Nat := s.intervals.foldl (fun total i => total + (i.2 + 1 - i.1)) 0

def isAscii (s : CharSet) : Bool := s.intervals.all (·.2 < 0x80)

def single? (s : CharSet) : Option Char :=
  match s.intervals with
  | [i] => if i.1 = i.2 then some (Char.ofNat i.1) else .none
  | _ => .none

def union (a b : CharSet) : CharSet :=
  ⟨b.intervals.foldl (fun done i => insertInterval i done) a.intervals⟩

def inter (a b : CharSet) : CharSet :=
  ⟨a.intervals.flatMap fun i => b.intervals.filterMap i.inter?⟩

def cut (i j : Interval) : List Interval :=
  if j.2 < i.1 || i.2 < j.1 then [i]
  else
    (if i.1 < j.1 then [(i.1, codeBefore j.1)] else [])
      ++ (if j.2 < i.2 then [(codeAfter j.2, i.2)] else [])

def minus (a b : CharSet) : CharSet :=
  ⟨b.intervals.foldl (fun left j => left.flatMap (cut · j)) a.intervals⟩

def symmDiff (a b : CharSet) : CharSet := (a.union b).minus (a.inter b)

/-- What lies between intervals and behind the last. Where only the surrogates lie between two of
them, it is the two characters beside these. -/
def gaps : List Interval → List Interval
  | [] => []
  | [i] => if i.2 < lastCode then [(codeAfter i.2, lastCode)] else []
  | i :: j :: rest => .between (codeAfter i.2) (codeBefore j.1) :: gaps (j :: rest)

def compl (s : CharSet) : CharSet :=
  match s.intervals with
  | [] => ⟨[(0, lastCode)]⟩
  | i :: _ => ⟨(if 0 < i.1 then [(0, codeBefore i.1)] else []) ++ gaps s.intervals⟩

def caseStep : Nat := 'a'.toNat - 'A'.toNat

def otherCases (i : Interval) : List Interval :=
  ((i.inter? ('a'.toNat, 'z'.toNat)).map fun j => (j.1 - caseStep, j.2 - caseStep)).toList
    ++ ((i.inter? ('A'.toNat, 'Z'.toNat)).map fun j => (j.1 + caseStep, j.2 + caseStep)).toList

def anyCase (s : CharSet) : CharSet := s.union (ofIntervals (s.intervals.flatMap otherCases))

def digits : CharSet := interval '0' '9'

def lowerLetters : CharSet := interval 'a' 'z'

def upperLetters : CharSet := interval 'A' 'Z'

def letters : CharSet := upperLetters.union lowerLetters

def word : CharSet := (digits.union letters).union (single '_')

def spaces : CharSet := (interval '\t' '\r').union (single ' ')

end CharSet
end CaptureProbe
