import Workflow.Pattern.CharSet

/-!
# Characters as bytes

The UTF-8 encoding of a character, and the ranges of bytes that the encodings of a range of
characters run through.  A range of characters is cut into pieces so that the encodings of a piece
are all lists of bytes out of one list of ranges.
-/

namespace Workflow

/-- Ranges of bytes, ends included: one for each byte of an encoded character. -/
abbrev ByteRanges := List (Nat × Nat)

def encodeCode (n : Nat) : List Nat :=
  if n < 0x80 then [n]
  else if n < 0x800 then [0xC0 + n / 64, 0x80 + n % 64]
  else if n < 0x10000 then [0xE0 + n / 4096, 0x80 + n / 64 % 64, 0x80 + n % 64]
  else [0xF0 + n / 262144, 0x80 + n / 4096 % 64, 0x80 + n / 64 % 64, 0x80 + n % 64]

def encodeChars (chars : List Char) : List Nat :=
  chars.flatMap fun c => encodeCode c.toNat

/-- The last codes whose encodings have one byte, two bytes and three bytes. -/
def lastCodes : List Nat := [0x7F, 0x7FF, 0xFFFF]

/-- The numbers of codes that share all bytes but the last one, two and three. -/
def blockSizes : List Nat := [64, 4096, 262144]

/-- Where the second piece of a range begins, if its codes have encodings of two lengths, or if it
covers blocks of codes and part of another. -/
def cutCode? (low high : Nat) : Option Nat :=
  match lastCodes.find? fun last => low ≤ last && last < high with
  | some last => some (last + 1)
  | none =>
    if high ≤ 0x7F then none
    else blockSizes.findSome? fun size =>
      if low / size == high / size then none
      else if low % size != 0 then some ((low / size + 1) * size)
      else if high % size != size - 1 then some (high / size * size)
      else none

/-- The encodings of a range of characters, in order. Surrogates have none. Each cut leaves smaller
blocks, so a range is cut only a few times in a row, which bounds the fuel. -/
def encodeRange : Nat → Nat → Nat → List ByteRanges
  | 0, _, _ => []
  | fuel + 1, low, high =>
    if high < low then []
    else if low < 0xE000 && 0xD7FF < high then
      encodeRange fuel low 0xD7FF ++ encodeRange fuel 0xE000 high
    else match cutCode? low high with
      | some middle => encodeRange fuel low (middle - 1) ++ encodeRange fuel middle high
      | none => [(encodeCode low).zip (encodeCode high)]

def CharSet.encodings (set : CharSet) : List ByteRanges :=
  set.ranges.flatMap fun (low, high) => encodeRange 32 low high

def CharSet.isSingleByte (set : CharSet) : Bool :=
  set.ranges.all fun (_, high) => high ≤ 0x7F

end Workflow
