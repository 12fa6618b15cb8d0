import CaptureProbe.Number.Layout
import CaptureProbe.Text.Json

/-!
The dynamic values that a probe sees, their printed form and their equality.
-/

namespace CaptureProbe

/-- A reference to an object. Two references are the same if identity and name agree. -/
structure ObjectRef where
  id : Nat
  name : String
  deriving DecidableEq, Repr

structure FuncRef where
  id : Nat
  name : String
  deriving DecidableEq, Repr

inductive Value where
  | undefined
  | null
  | bool (b : Bool)
  | number (x : Number)
  | text (s : String)
  | object (ref : ObjectRef)
  | function (ref : FuncRef)
  deriving DecidableEq

def ObjectRef.pieces (ref : ObjectRef) : List String := ["[object ", ref.name, "]"]

def ObjectRef.display (ref : ObjectRef) : String := String.join ref.pieces

namespace Value

def kind : Value → String
  | .undefined => "undefined"
  | .null => "null"
  | .bool _ => "boolean"
  | .number _ => "number"
  | .text _ => "string"
  | .object _ => "object"
  | .function _ => "function"

def pieces : Value → List String
  | .undefined => ["undefined"]
  | .null => ["null"]
  | .bool true => ["true"]
  | .bool false => ["false"]
  | .number x => [x.display]
  | .text s => [s]
  | .object ref => ref.pieces
  | .function ref => ["[function ", ref.name, "]"]

/-- The printed form. Texts are printed bare. -/
def display (v : Value) : String := String.join v.pieces

def linePieces (v : Value) : List String := v.pieces ++ ["\n"]

def line (v : Value) : String := v.display ++ "\n"

def ofInt (n : Int) : Value := .number (Number.ofInt n)

/-- Equality as programs see it: numbers by numeric value, all else by content. -/
def equal : Value → Value → Bool
  | .number x, .number y => x.equal y
  | .number _, _ => false
  | _, .number _ => false
  | v, w => v == w

def json (style : Json.Style) (depth : Nat) (v : Value) : String :=
  style.record depth [("kind", Json.string v.kind), ("repr", Json.string v.display)]

end Value
end CaptureProbe
