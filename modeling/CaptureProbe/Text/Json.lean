/-!
JSON text. A record or list is put together from members that are already written, in one of two
styles: without any blank, or one member a line with two blanks for each level.
-/

namespace CaptureProbe.Json

def controlEscape (c : Char) : List Char :=
  ['\\', 'u', '0', '0'] ++ Nat.toDigits 16 (c.toNat / 16) ++ Nat.toDigits 16 (c.toNat % 16)

/-- One character of a string. Only quote, backslash and control characters are escaped. -/
def stringChar (c : Char) : List Char :=
  if c = '"' then ['\\', '"']
  else if c = '\\' then ['\\', '\\']
  else if c = '\n' then ['\\', 'n']
  else if c = '\r' then ['\\', 'r']
  else if c = '\t' then ['\\', 't']
  else if c = '\x08' then ['\\', 'b']
  else if c = '\x0c' then ['\\', 'f']
  else if c.toNat < 0x20 then controlEscape c
  else [c]

def string (s : String) : String :=
  String.ofList ('"' :: (s.toList.flatMap stringChar ++ ['"']))

def natural (n : Nat) : String := Nat.repr n

inductive Style where
  | compact
  | pretty
  deriving DecidableEq, Repr

namespace Style

def lineBreak (depth : Nat) : Style → String
  | .compact => ""
  | .pretty => String.ofList ('\n' :: List.replicate (2 * depth) ' ')

def colon : Style → String
  | .compact => ":"
  | .pretty => ": "

/-- Members between brackets; nothing stands between the brackets of an empty list. -/
def bracket (style : Style) (depth : Nat) (opening closing : String) (members : List String) :
    String :=
  match members with
  | [] => opening ++ closing
  | _ =>
    let start := style.lineBreak (depth + 1)
    opening ++ start ++ String.intercalate ("," ++ start) members ++ style.lineBreak depth ++ closing

def list (style : Style) (depth : Nat) (items : List String) : String :=
  style.bracket depth "[" "]" items

def record (style : Style) (depth : Nat) (fields : List (String × String)) : String :=
  style.bracket depth "\x7b" "\x7d"
    (fields.map fun field => string field.1 ++ style.colon ++ field.2)

end Style
end CaptureProbe.Json
