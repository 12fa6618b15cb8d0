import CaptureProbe.Value.Basic
import CaptureProbe.Number.Numeral

/-!
Literals: how a value is given on a command line. Seven words and the numerals that begin with a
digit, a sign or a point have a meaning of their own; every other text stands for itself, less one
pair of surrounding quotes.
-/

namespace CaptureProbe
namespace Value

def keyword? (s : String) : Option Value :=
  if s = "undefined" then some .undefined
  else if s = "null" then some .null
  else if s = "true" then some (.bool true)
  else if s = "false" then some (.bool false)
  else if s = "NaN" then some (.number (Number.nan false))
  else if s = "Infinity" then some (.number (Number.infinity false))
  else if s = "-Infinity" then some (.number (Number.infinity true))
  else none

/-- Characters that a numeric literal may begin with. Words for infinity and NaN need a sign. -/
def beginsNumber (c : Char) : Bool := c.isDigit || c = '-' || c = '+' || c = '.'

def numeric? (cs : List Char) : Option Number :=
  match cs with
  | [] => none
  | c :: _ => if beginsNumber c then (Numeral.read? cs).map Numeral.toNumber else none

/-- Takes off one pair of surrounding quotes. A single quote is no pair. -/
def unquote : List Char → List Char
  | [] => []
  | c :: rest =>
    if c = '"' ∧ rest.getLast? = some '"' then rest.dropLast else c :: rest

def ofLiteral (s : String) : Value :=
  match keyword? s with
  | some v => v
  | none =>
    match numeric? s.toList with
    | some x => .number x
    | none => .text (String.ofList (unquote s.toList))

def literal : Value → String
  | .text s => "\"" ++ s ++ "\""
  | v => v.display

end Value
end CaptureProbe
