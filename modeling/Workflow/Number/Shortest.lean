import Workflow.Number.Double

/-!
# Shortest decimal text of a double

A finite double is written with the fewest digits that read back as the same double; of two such
decimals the nearer one, and of two equally near the one whose last digit is even.
`shortestDecimal` finds the digits by trying the two neighbours of the value on each decimal grid,
in exact arithmetic.  The layout is that of `Finite.text`.
-/

namespace Workflow.Number

/-- A positive decimal: `digits` times ten to the power `exponent`. -/
structure Decimal where
  digits : Nat
  exponent : Int
  deriving DecidableEq, Repr

/-- How many decimal digits `n` has; zero has none. -/
def digitCount (n : Nat) : Nat :=
  if n = 0 then 0 else (Nat.toDigits 10 n).length

/-- The exponent of ten of the first digit of `units` units. -/
def leadingExponent (units : Nat) : Int :=
  if one ≤ units then (digitCount (units / one) : Int) - 1
  else -(digitCount ((one - 1) / units) : Int)

/-- The reals that round to `units` units, as bounds in quarters of a unit; the bounds themselves
belong to them if and only if `closed`. -/
structure Rounding where
  low : Nat
  high : Nat
  closed : Bool

/-- The reals that round to `units` units. -/
def Rounding.of (units : Nat) : Rounding :=
  let step := if units < Nat.pow 2 53 then 1 else Nat.pow 2 (units.log2 - 52)
  let below := if 1 < step && units == Nat.pow 2 units.log2 then step / 2 else step
  ⟨4 * units - 2 * below, 4 * units + 2 * step, units / step % 2 == 0⟩

/-- Whether `num / den` quarters of a unit round to the number that `rounding` describes. -/
def Rounding.has (rounding : Rounding) (num den : Nat) : Bool :=
  if rounding.closed then rounding.low * den ≤ num && num ≤ rounding.high * den
  else rounding.low * den < num && num < rounding.high * den

/-- The best decimal for `units` with the exponent `exponent`, if one of the two next to the value
reads back. -/
def nearestDecimal? (units : Nat) (exponent : Int) : Option Decimal :=
  let grid := 4 * one * Nat.pow 10 exponent.toNat
  let den := Nat.pow 10 (-exponent).toNat
  let value := 4 * units * den
  let lower := value / grid
  let rounding := Rounding.of units
  let under := rounding.has (lower * grid) den
  let above := rounding.has ((lower + 1) * grid) den
  let twice := 2 * (value % grid)
  if under && (!above || twice < grid || (twice == grid && lower % 2 == 0)) then
    some ⟨lower, exponent⟩
  else if above then some ⟨lower + 1, exponent⟩
  else none

/-- The shortest decimal that reads back as `units` units. Seventeen digits are always enough. -/
def shortestDecimal (units : Nat) : Decimal :=
  let leading := leadingExponent units
  let counts := (List.range 17).map fun (n : Nat) => leading - (n : Int)
  (counts.findSome? (nearestDecimal? units)).getD ⟨0, 0⟩

def significantDigits (n : Nat) : List Char :=
  ((Nat.toDigits 10 n).reverse.dropWhile (· == '0')).reverse

/-- Which exponents of the first digit are written without an exponent: from `-5` to `15`. -/
def isPlainExponent (exponent : Int) : Bool :=
  -5 ≤ exponent && exponent ≤ 15

/-- Digits with a point after the first `exponent + 1` of them, and at least one digit on each
side. -/
def plainText (digits : List Char) (exponent : Int) : List Char :=
  if exponent < 0 then
    '0' :: '.' :: (List.replicate (-exponent - 1).toNat '0' ++ digits)
  else
    let count := exponent.toNat + 1
    let whole := digits.take count ++ List.replicate (count - digits.length) '0'
    let fraction := digits.drop count
    whole ++ '.' :: (if fraction.isEmpty then ['0'] else fraction)

/-- One digit, the others after a point, and the exponent with its sign. -/
def scientificText (digits : List Char) (exponent : Int) : List Char :=
  let mantissa := match digits with
    | [] => []
    | [digit] => [digit]
    | digit :: rest => digit :: '.' :: rest
  let sign := if exponent < 0 then '-' else '+'
  mantissa ++ 'e' :: sign :: Nat.toDigits 10 exponent.natAbs

def magnitudeText (units : Nat) : List Char :=
  let decimal := shortestDecimal units
  let digits := significantDigits decimal.digits
  let exponent := decimal.exponent + digitCount decimal.digits - 1
  if isPlainExponent exponent then plainText digits exponent else scientificText digits exponent

/-- A finite double as text: `1.0`, `0.00001`, `1e+16`, `-0.0`. -/
def Finite.text (x : Finite) : List Char :=
  let magnitude := if x.units = 0 then ['0', '.', '0'] else magnitudeText x.units
  if x.negative then '-' :: magnitude else magnitude

end Workflow.Number
