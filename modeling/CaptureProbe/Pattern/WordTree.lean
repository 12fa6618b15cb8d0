import CaptureProbe.Pattern.Size

/-!
The tree in which an automaton keeps a choice between words. Words that begin alike share states, but
a word that ends at a state keeps those before it apart from those behind it, as an earlier word is
preferred.
-/

namespace CaptureProbe.Pattern.WordTree

/-- The runs of words between the empty ones. Empty words at the front count as one. -/
def runs (words : List (List UInt8)) : List (List (List UInt8)) :=
  let words := match words with
    | [] :: rest => [] :: rest.dropWhile (·.isEmpty)
    | words => words
  words.splitOnP (·.isEmpty)

def tails (byte : UInt8) (run : List (List UInt8)) : List (List UInt8) :=
  run.filterMap fun word => if word.head? = some byte then some word.tail else none

def heads (run : List (List UInt8)) : List UInt8 := (run.filterMap (·.head?)).eraseDups

def addRun (s : Size) (transitions : Nat) : Size :=
  if transitions = 0 then s else if transitions = 1 then s.addStates 1 else s.addSparse transitions

/-- Adds the states at which words, of which some are not empty, begin. The words are no longer than the
depth. -/
def addWords : Nat → List (List UInt8) → Size → Size
  | 0, _, s => s
  | depth + 1, words, s =>
    let runs := runs words
    let grown := runs.foldl
      (fun s run =>
        let below := (heads run).foldl
          (fun s byte =>
            let rest := tails byte run
            if rest.all (·.isEmpty) then s else addWords depth rest s)
          s
        addRun below (heads run).length)
      s
    let filled := (runs.filter (!·.isEmpty)).length
    (grown.addStates 1).addBranches (filled + (runs.length - 1))

def add (words : List (List UInt8)) (s : Size) : Size :=
  addWords (words.foldl (fun depth word => max depth word.length) 0) words (s.addStates 1)

end CaptureProbe.Pattern.WordTree
