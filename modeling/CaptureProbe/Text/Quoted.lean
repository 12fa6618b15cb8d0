import CaptureProbe.Text.Bytes
import CaptureProbe.Text.Invisible

/-!
Quoted text of diagnostics: a text between double quotes on one line, with every character that could
end the quotation or would not be seen written as an escape.
-/

namespace CaptureProbe.Text

def codePointEscape (c : Char) : List Char :=
  "\\u\x7b".toList ++ Nat.toDigits 16 c.toNat ++ ['\x7d']

def quoteChar (c : Char) : List Char :=
  if c = '\x00' then ['\\', '0']
  else if c = '\t' then ['\\', 't']
  else if c = '\r' then ['\\', 'r']
  else if c = '\n' then ['\\', 'n']
  else if c = '"' then ['\\', '"']
  else if c = '\\' then ['\\', '\\']
  else if isInvisible c then codePointEscape c
  else [c]

def quoted (s : String) : String :=
  String.ofList ('"' :: (s.toList.flatMap quoteChar ++ ['"']))

def upperHex (n : Nat) : List Char := (Nat.toDigits 16 n).map Char.toUpper

def byteEscape (b : UInt8) : List Char :=
  ['\\', 'x'] ++ upperHex (b.toNat / 16) ++ upperHex (b.toNat % 16)

def quoteSymbol : Symbol → List Char
  | .char c => quoteChar c
  | .stray b => byteEscape b

def quotedBytes (bs : List UInt8) : String :=
  String.ofList ('"' :: ((symbols bs).flatMap quoteSymbol ++ ['"']))

end CaptureProbe.Text
