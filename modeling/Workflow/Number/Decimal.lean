import Workflow.Number.Double

/-!
# Decimals read as doubles

Two rules turn decimal digits into a double.  `Double.ofDecimal` rounds the exact value once; it
reads numbers that stand in strings.  `Numeral.scaled?` keeps as many digits as fit 64 bits, rounds
them, and multiplies or divides by a rounded power of ten; it reads the numbers of a document, and
may be off by a unit in the last place.
-/

namespace Workflow.Number

/-- The number that a list of decimal digits denotes. -/
def ofDigits (digits : List Nat) : Nat :=
  digits.foldl (fun n digit => 10 * n + digit) 0

/-- The double nearest to `digits` times ten to the power `exponent`. Exponents that lead far out
of the range are decided without computing the power. -/
def Double.ofDecimal (negative : Bool) (digits : Nat) (exponent : Int) : Double :=
  let magnitude := exponent + (Nat.toDigits 10 digits).length
  if digits = 0 || magnitude < -330 then .finite ⟨negative, 0⟩
  else if 310 < magnitude then .infinite negative
  else .ofRatio negative (digits * Nat.pow 10 exponent.toNat * one) (Nat.pow 10 (-exponent).toNat)

/-- The decimal digits at the start of a text, and what follows them. -/
def takeDigits (text : List Char) : List Nat × List Char :=
  ((text.takeWhile Char.isDigit).map fun c => c.toNat - '0'.toNat, text.dropWhile Char.isDigit)

/-- The exponent mark of a number in a string with its digits; no mark means no exponent. -/
def readExponent? : List Char → Option Int
  | [] => some 0
  | mark :: rest =>
    if mark != 'e' && mark != 'E' then none
    else
      let (negative, rest) := match rest with
        | '+' :: rest => (false, rest)
        | '-' :: rest => (true, rest)
        | rest => (false, rest)
      match takeDigits rest with
      | ([], _) => none
      | (digits, []) => some (if negative then -(ofDigits digits : Int) else ofDigits digits)
      | (_, _ :: _) => none

/-- Digits with an optional point and exponent; at least one digit on some side of the point. -/
def readUnsigned? (negative : Bool) (text : List Char) : Option Double :=
  let (whole, rest) := takeDigits text
  let (fraction, rest) := match rest with
    | '.' :: rest => takeDigits rest
    | rest => ([], rest)
  if whole.isEmpty && fraction.isEmpty then none
  else (readExponent? rest).map fun exponent =>
    .ofDecimal negative (ofDigits (whole ++ fraction)) (exponent - fraction.length)

/-- A number that stands in a string: an optional sign, then `inf`, `infinity` or `nan` in any
case, or digits with an optional point and exponent. -/
def readDouble? (text : List Char) : Option Double :=
  let (negative, rest) := match text with
    | '+' :: rest => (false, rest)
    | '-' :: rest => (true, rest)
    | rest => (false, rest)
  match String.ofList (rest.map Char.toLower) with
  | "inf" | "infinity" => some (.infinite negative)
  | "nan" => some .notANumber
  | _ => readUnsigned? negative rest

/-- A number as written in a document: its sign, the digits before and after the point, and the
exponent's sign and digits. -/
structure Numeral where
  negative : Bool
  whole : List Nat
  fraction : Option (List Nat)
  exponent : Option (Bool × List Nat)
  deriving DecidableEq, Repr

/-- Appends digits to `n` as long as the result fits 64 bits; gives the digits that are left. -/
def absorb (n : Nat) : List Nat → Nat × List Nat
  | [] => (n, [])
  | digit :: rest =>
    if 10 * n + digit < Nat.pow 2 64 then absorb (10 * n + digit) rest else (n, digit :: rest)

/-- The quotient of two finite doubles, as a magnitude. -/
def quotientUnits (x y : Nat) : Nat :=
  roundUnits (x * one) y

/-- A power of ten, rounded, as a magnitude. -/
def powerUnits (n : Nat) : Nat :=
  (Finite.ofNat false (Nat.pow 10 n)).units

/-- `significand` rounded and then multiplied or divided by the rounded power of ten. A power below
`10 ^ (-308)` is reached by dividing by `10 ^ 308` first; three such divisions leave zero. A result
that is not finite is refused. -/
def Numeral.scaled? (negative : Bool) (significand : Nat) (exponent : Int) : Option Finite :=
  let start := (Finite.ofNat false significand).units
  let size := exponent.natAbs
  if significand = 0 then some ⟨negative, 0⟩
  else if 0 ≤ exponent then
    let product := roundUnits (start * powerUnits size) one
    if size ≤ 308 && product < overflow then some ⟨negative, product⟩ else none
  else
    let passes := (size - 1) / 308
    let shrunk := Nat.repeat (quotientUnits · (powerUnits 308)) (min passes 3) start
    some ⟨negative, quotientUnits shrunk (powerUnits (size - 308 * passes))⟩

end Workflow.Number
