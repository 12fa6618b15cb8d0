import CaptureProbe.Number.Decimal

/-!
Numerals: an optional sign, then a word for infinity or NaN in any letter case, or digits with an
optional point and an optional exponent. The whole text has to be the numeral.
-/

namespace CaptureProbe

inductive Numeral where
  | infinity (negative : Bool)
  | nan (negative : Bool)
  | decimal (negative : Bool) (value : Decimal)
  deriving DecidableEq, Repr

namespace Numeral

def digitsValue (cs : List Char) : Nat := Nat.ofDigitChars 10 cs 0

def splitSign : List Char → Bool × List Char
  | '-' :: rest => (true, rest)
  | '+' :: rest => (false, rest)
  | cs => (false, cs)

def wholeDigits? (cs : List Char) : Option Nat :=
  if cs ≠ [] ∧ cs.all Char.isDigit then some (digitsValue cs) else none

/-- The part after the last digit of the significand: nothing, or an exponent. -/
def exponent? : List Char → Option Int
  | [] => some 0
  | c :: rest =>
    if c = 'e' ∨ c = 'E' then
      let signed := splitSign rest
      (wholeDigits? signed.2).map fun n => if signed.1 then -(n : Int) else n
    else none

def splitFraction : List Char → List Char × List Char
  | '.' :: rest => (rest.takeWhile Char.isDigit, rest.dropWhile Char.isDigit)
  | cs => ([], cs)

/-- An unsigned decimal: digits on at least one side of the point. -/
def decimal? (cs : List Char) : Option Decimal :=
  let whole := cs.takeWhile Char.isDigit
  let tail := splitFraction (cs.dropWhile Char.isDigit)
  if whole = [] ∧ tail.1 = [] then none
  else (exponent? tail.2).map fun power =>
    ⟨digitsValue (whole ++ tail.1), power - tail.1.length⟩

def lowercase (cs : List Char) : List Char := cs.map Char.toLower

def isInfinityWord (cs : List Char) : Bool :=
  lowercase cs = ['i', 'n', 'f'] || lowercase cs = ['i', 'n', 'f', 'i', 'n', 'i', 't', 'y']

def isNaNWord (cs : List Char) : Bool := lowercase cs = ['n', 'a', 'n']

def read? (cs : List Char) : Option Numeral :=
  let signed := splitSign cs
  if isInfinityWord signed.2 then some (.infinity signed.1)
  else if isNaNWord signed.2 then some (.nan signed.1)
  else (decimal? signed.2).map (.decimal signed.1)

def toNumber : Numeral → Number
  | .infinity negative => Number.infinity negative
  | .nan negative => Number.nan negative
  | .decimal negative value => value.toNumber negative

end Numeral
end CaptureProbe
