import CaptureProbe.Pattern.Basic
import CaptureProbe.Text.Bytes

/-!
Patterns that stand for a few words. The words are looked for as they are, and no automaton is needed,
unless it pays off to look only for what many of them begin with.
-/

namespace CaptureProbe.Pattern

abbrev Word := List UInt8

namespace WordList

def mostWords : Nat := 250

def mostBytes : Nat := 100

def mostChars : Nat := 10

def mostTimes : Nat := 10

def dedup : List Word → List Word
  | [] => []
  | w :: rest =>
    match dedup rest with
    | [] => [w]
    | next :: more => if w = next then next :: more else w :: next :: more

def checked (words : List Word) : Option (List Word) :=
  if words.length ≤ mostWords && words.all (·.length ≤ mostBytes) then some (dedup words) else none

def cross (a b : List Word) : Option (List Word) :=
  checked (a.flatMap fun v => b.map (v ++ ·))

def ofSet? (set : CharSet) : Option (List Word) :=
  if mostChars < set.size then none
  else some (set.intervals.flatMap fun i =>
    (List.range (i.2 + 1 - i.1)).map fun k => String.utf8EncodeChar (Char.ofNat (i.1 + k)))

def power (words : List Word) : Nat → Option (List Word)
  | 0 => some [[]]
  | times + 1 => (power words times).bind (cross · words)

def onlyEmpty (words : List Word) : Option (List Word) := if words.isEmpty then some [] else none

end WordList

/-- The words that a pattern stands for, the preferred ones first, where there are only a few. -/
def words? : Pattern → Option (List Word)
  | .literal text => WordList.checked [Text.bytes (String.ofList text)]
  | .one set _ => WordList.ofSet? set
  | .capture _ p => p.words?
  | .seq p q => do
    let front ← p.words?
    if front.isEmpty then pure [] else WordList.cross front (← q.words?)
  | .either p q => do WordList.checked ((← p.words?) ++ (← q.words?))
  | .repeated p least most greedy => do
    let words ← p.words?
    if least = 0 then
      if most = some 1 || words.isEmpty then
        WordList.checked (if greedy then words ++ [[]] else [] :: words)
      else none
    else
      let front ← WordList.power words (min least WordList.mostTimes)
      if most = some least && least ≤ WordList.mostTimes then pure front
      else WordList.onlyEmpty front
  | _ => some [[]]

def isPlain : Pattern → Bool
  | .empty => true
  | .literal _ => true
  | .one _ _ => true
  | .seq p q => p.isPlain && q.isPlain
  | .either p q => p.isPlain && q.isPlain
  | .repeated p _ _ _ => p.isPlain
  | _ => false

namespace WordList

/-- Drops words that begin with an earlier one, which is found first. -/
def shadowed (kept : List Word) : List Word → List Word
  | [] => kept.reverse
  | w :: rest => if kept.any (·.isPrefixOf w) then shadowed kept rest else shadowed (w :: kept) rest

def minimize (words : List Word) : List Word := shadowed [] words

def sharedFront : Word → Word → Word
  | a :: as, b :: bs => if a = b then a :: sharedFront as bs else []
  | _, _ => []

def front : List Word → Word
  | [] => []
  | w :: rest => rest.foldl sharedFront w

/-- The bytes that are common in texts: most letters and digits, some signs, blanks, and the bytes that
begin other characters. -/
def isCommon (b : UInt8) : Bool :=
  0xC0 ≤ b || (Text.bytes "abcdefghilmnoprstuvxy0129-./:,()_| \n\r").contains b

/-- Cuts long lists down to what the words begin with, in a few attempts: so many bytes of the words
where there are more words than so many. -/
def shorten (words : List Word) : List (Nat × Nat) → List Word
  | [] => words
  | (bytes, most) :: attempts =>
    if words.length ≤ most then words
    else shorten (minimize (words.map (·.take bytes))) attempts

def attempts : List (Nat × Nat) := [(5, 10), (4, 10), (3, 64), (2, 64), (1, 10)]

def isUseful (words : List Word) : Bool :=
  words.length ≤ 64 && words.all (3 ≤ ·.length)

def isSearched (words : List Word) : Bool :=
  let kept := minimize words
  let front := front kept
  let rare := 1 < words.length && front.length ≤ 3 && front.head?.any (!isCommon ·)
  let long := 4 < front.length || (1 < front.length && 16 < kept.length)
  let short := shorten kept attempts
  if words.isEmpty || words.any (·.isEmpty) then false
  else if rare then kept.all (·.length = 1)
  else if long then kept.length = 1
  else short = kept || !isUseful short

end WordList

def isWordList (p : Pattern) : Bool := p.isPlain && p.words?.any WordList.isSearched

end CaptureProbe.Pattern
