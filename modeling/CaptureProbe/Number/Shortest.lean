import CaptureProbe.Number.Decimal

/-!
The shortest decimal of a finite number: the fewest digits that read back as the same number, and of
those the nearest to it. Candidates are tested with the reader itself.
-/

namespace CaptureProbe
namespace Number

def unitsInOne : Nat := 1 <<< 1074

/-- The decimal order of `num / den`, for positive `num`: the quotient is below `10 ^ order`, and not
below a tenth of that. -/
def decimalOrder (num den : Nat) : Int :=
  if den ≤ num then decimalLength (num / den)
  else 1 - (decimalLength ((den - 1) / num) : Int)

/-- The two neighbours of `num / den` on the grid of multiples of `10 ^ exponent`, nearer one first.
A value midway between them prefers the upper. -/
def neighbours (num den : Nat) (exponent : Int) : List Decimal :=
  let scaledNum := num * Nat.pow 10 (-exponent).toNat
  let scaledDen := den * Nat.pow 10 exponent.toNat
  let below := scaledNum / scaledDen
  let order := if 2 * (scaledNum % scaledDen) < scaledDen then [below, below + 1]
    else [below + 1, below]
  order.map fun digits => (Decimal.mk digits exponent).stripZeros

def readsBack (x : Number) (d : Decimal) : Bool := d.pattern == x.magnitude

def onGrid (x : Number) (exponent : Int) : Option Decimal :=
  (neighbours x.units unitsInOne exponent).find? x.readsBack

def exactDecimal (x : Number) : Decimal := ⟨x.units * Nat.pow 5 1074, -1074⟩

/-- The shortest decimal of a finite magnitude: grids of one digit, two digits, and so on are tried
in turn. Seventeen digits always suffice; were they not to, all digits would be given. -/
def shortest (x : Number) : Decimal :=
  if x.isZero then ⟨0, 0⟩
  else
    let order := decimalOrder x.units unitsInOne
    ((List.range' 1 17).findSome? fun (count : Nat) => x.onGrid (order - count)).getD x.exactDecimal

end Number
end CaptureProbe
