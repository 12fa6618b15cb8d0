import CaptureProbe.Number.Shortest

/-!
Written forms of a number. Both forms show the same shortest digits: the printed form is always
positional, the descriptive form of diagnostics keeps a fraction digit and changes to an exponent for
very large and very small magnitudes.
-/

namespace CaptureProbe

namespace Decimal

def digitText (d : Decimal) : List Char := Nat.toDigits 10 d.digits

def positional (d : Decimal) : List Char :=
  let text := d.digitText
  let places := (-d.exponent).toNat
  if places = 0 then text ++ List.replicate d.exponent.toNat '0'
  else if places < text.length then
    text.take (text.length - places) ++ '.' :: text.drop (text.length - places)
  else '0' :: '.' :: (List.replicate (places - text.length) '0' ++ text)

/-- One digit, a point if more follow, and the power of ten of the first digit. -/
def scientific (d : Decimal) : List Char :=
  let text := d.digitText
  let power := d.order - 1
  let tail := match text.drop 1 with
    | [] => []
    | rest => '.' :: rest
  text.take 1 ++ tail ++ 'e' :: (if power < 0 then ['-'] else []) ++ Nat.toDigits 10 power.natAbs

def withFraction (d : Decimal) : List Char :=
  if 0 ≤ d.exponent then d.positional ++ ['.', '0'] else d.positional

end Decimal

namespace Number

def sign (x : Number) : List Char := if x.negative then ['-'] else []

def display (x : Number) : String :=
  if x.isNaN then "NaN"
  else if x.isInfinite then (if x.negative then "-Infinity" else "Infinity")
  else String.ofList (x.sign ++ x.shortest.positional)

/-- Magnitudes that the descriptive form writes positionally: zero, and from 10^-4 up to but without
10^16. -/
def describedPositionally (d : Decimal) : Bool :=
  d.digits == 0 || (decide (-3 ≤ d.order) && decide (d.order ≤ 16))

def describe (x : Number) : String :=
  if x.isNaN then "NaN"
  else
    let body := if x.isInfinite then "inf".toList
      else if describedPositionally x.shortest then x.shortest.withFraction
      else x.shortest.scientific
    String.ofList (x.sign ++ body)

end Number
end CaptureProbe
