import CaptureProbe.Pattern.CharSet

/-!
Characters as sequences of bytes. The characters of an interval, in the UTF-8 form, are those of a few
sequences of byte ranges, each of which has an interval of bytes for every byte of its characters.
-/

namespace CaptureProbe

abbrev ByteRanges := List Interval

namespace ByteRanges

def encode (code : Nat) : List Nat :=
  if code < 0x80 then [code]
  else if code < 0x800 then [0xC0 + code / 64, 0x80 + code % 64]
  else if code < 0x10000 then [0xE0 + code / 4096, 0x80 + code / 64 % 64, 0x80 + code % 64]
  else
    [0xF0 + code / 262144, 0x80 + code / 4096 % 64, 0x80 + code / 64 % 64, 0x80 + code % 64]

def splitAfter (code : Nat) (i : Interval) : List Interval :=
  if i.1 ≤ code && code < i.2 then [(i.1, code), (code + 1, i.2)] else [i]

def splitSurrogates (i : Interval) : List Interval :=
  if i.1 < 0xE000 && 0xD7FF < i.2 then [(i.1, 0xD7FF), (0xE000, i.2)].filter fun j => j.1 ≤ j.2
  else [i]

def splitLengths (i : Interval) : List Interval :=
  ((splitAfter 0x7F i).flatMap (splitAfter 0x7FF)).flatMap (splitAfter 0xFFFF)

/-- Cuts an interval so that a part which lies in more than one block of a width fills its blocks. -/
def splitBlocks (width : Nat) (i : Interval) : List Interval :=
  if i.2 < 0x80 || i.1 / width = i.2 / width then [i]
  else
    let start := (i.1 + width - 1) / width * width
    let stop := (i.2 + 1) / width * width
    (if i.1 < start then [(i.1, start - 1)] else [])
      ++ (if start < stop then [(start, stop - 1)] else [])
      ++ (if stop ≤ i.2 then [(stop, i.2)] else [])

def ofInterval (i : Interval) : ByteRanges := (encode i.1).zip (encode i.2)

def ofSet (s : CharSet) : List ByteRanges :=
  ((s.intervals.flatMap splitSurrogates).flatMap splitLengths).flatMap (splitBlocks 64)
    |>.flatMap (splitBlocks 4096) |>.flatMap (splitBlocks 262144) |>.map ofInterval

end ByteRanges
end CaptureProbe
