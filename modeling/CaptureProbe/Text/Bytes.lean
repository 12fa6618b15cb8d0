/-!
Text as bytes: the UTF-8 form of a text, and the reading of a byte string as runs of characters and
stray bytes.
-/

namespace CaptureProbe.Text

def bytes (s : String) : List UInt8 := s.toList.flatMap String.utf8EncodeChar

@[simp] theorem bytes_append (a b : String) : bytes (a ++ b) = bytes a ++ bytes b := by
  simp [bytes]

@[simp] theorem bytes_empty : bytes "" = [] := by simp [bytes]

def isContinuation (b : UInt8) : Bool := 0x80 ≤ b && b < 0xC0

def payload (b : UInt8) : Nat := b.toNat % 64

def scalar? (least code : Nat) : Option Char :=
  if valid : code.isValidChar then
    if least ≤ code then some (Char.ofNatAux code valid) else none
  else none

/-- What the first byte of a character says: how many bytes follow it, the bits that it holds itself,
and the least code point that needs this many bytes. -/
def firstByte? (b : UInt8) : Option (Nat × Nat × Nat) :=
  if b < 0x80 then some (0, b.toNat, 0)
  else if b < 0xC0 then none
  else if b < 0xE0 then some (1, b.toNat % 32, 0x80)
  else if b < 0xF0 then some (2, b.toNat % 16, 0x800)
  else if b < 0xF8 then some (3, b.toNat % 8, 0x10000)
  else none

/-- The character at the front of a byte string, and how many bytes follow its first. Over-long forms,
surrogates and cut-off characters are no characters. -/
def leading? : List UInt8 → Option (Char × Nat)
  | [] => none
  | b :: rest => do
    let (more, bits, least) ← firstByte? b
    let tail := rest.take more
    if tail.length = more ∧ tail.all isContinuation then
      let c ← scalar? least (tail.foldl (fun code next => 64 * code + payload next) bits)
      pure (c, more)
    else none

inductive Symbol where
  | char (c : Char)
  | stray (b : UInt8)
  deriving DecidableEq, Repr

/-- Reads a byte string; `skip` bytes at the front belong to the character read last. -/
def symbolsFrom : Nat → List UInt8 → List Symbol
  | _, [] => []
  | skip + 1, _ :: rest => symbolsFrom skip rest
  | 0, b :: rest =>
    match leading? (b :: rest) with
    | some (c, more) => .char c :: symbolsFrom more rest
    | none => .stray b :: symbolsFrom 0 rest

def symbols (bs : List UInt8) : List Symbol := symbolsFrom 0 bs

def Symbol.char? : Symbol → Option Char
  | .char c => some c
  | .stray _ => none

def ofBytes? (bs : List UInt8) : Option String := ((symbols bs).mapM Symbol.char?).map String.ofList

end CaptureProbe.Text
