/-!
Double-precision numbers as sign and magnitude pattern. Every finite magnitude is a whole number of
units of 2^-1074, so all comparisons of this library are made between natural numbers.
-/

namespace CaptureProbe

def signBit : Nat := 0x8000000000000000

/-- The weight of the exponent field, and of the leading bit that normal numbers leave out. -/
def hiddenBit : Nat := 0x10000000000000

/-- A double-precision number. The magnitude is the 63-bit pattern without the sign: eleven exponent
bits above fifty-two fraction bits. Patterns are ordered as the magnitudes they stand for. -/
structure Number where
  negative : Bool
  magnitude : Nat
  bounded : magnitude < signBit
  deriving DecidableEq

namespace Number

def infinityPattern : Nat := 2047 * hiddenBit

theorem infinityPattern_lt : infinityPattern < signBit := by decide

def ofBits (bits : UInt64) : Number where
  negative := signBit ≤ bits.toNat
  magnitude := bits.toNat % signBit
  bounded := Nat.mod_lt _ (by decide)

def toBits (x : Number) : UInt64 :=
  UInt64.ofNat ((if x.negative then signBit else 0) + x.magnitude)

def infinity (negative : Bool) : Number := ⟨negative, infinityPattern, infinityPattern_lt⟩

def nan (negative : Bool) : Number := ⟨negative, infinityPattern + hiddenBit / 2, by decide⟩

def isNaN (x : Number) : Bool := infinityPattern < x.magnitude

def isInfinite (x : Number) : Bool := x.magnitude == infinityPattern

def isZero (x : Number) : Bool := x.magnitude == 0

def exponentField (x : Number) : Nat := x.magnitude / hiddenBit

def fraction (x : Number) : Nat := x.magnitude % hiddenBit

/-- The significand of a finite number: the fraction, with the hidden bit unless subnormal. -/
def significand (x : Number) : Nat :=
  if x.exponentField = 0 then x.fraction else hiddenBit + x.fraction

def scale (x : Number) : Nat := x.exponentField - 1

def units (x : Number) : Nat := x.significand <<< x.scale

/-- Numeric equality: a NaN equals nothing, and the two zeros are equal. -/
def equal (x y : Number) : Bool :=
  !x.isNaN && !y.isNaN && (x.magnitude == y.magnitude) && (x.negative == y.negative || x.isZero)

end Number
end CaptureProbe
