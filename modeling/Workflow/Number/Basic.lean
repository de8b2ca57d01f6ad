import Workflow.Number.Decimal
import Workflow.Number.Shortest

/-!
# Numbers of a state tree

A number is an integer or a finite double, and the two are different values even where they are
equal as numbers: `1` is not `1.0`.  Comparisons that should not tell them apart go through
`Number.toFinite`, which rounds an integer to the nearest double.
-/

namespace Workflow

open Number in
/-- A number: an integer of 64 bits, signed or unsigned, or a finite double. -/
inductive Number
  | int (value : Int)
  | real (value : Finite)
  deriving DecidableEq, Repr, Inhabited

namespace Number

/-- The number as a double, an integer rounded to the nearest one. -/
def toFinite : Number → Finite
  | .int value => .ofNat (decide (value < 0)) value.natAbs
  | .real value => value

/-- The number as a natural number, if it is an integer that is not negative. -/
def toNat? : Number → Option Nat
  | .int value => if 0 ≤ value then some value.toNat else none
  | .real _ => none

/-- Whether two numbers round to the same double; both zeros are the same. -/
def sameDouble (x y : Number) : Bool :=
  x.toFinite.signedUnits == y.toFinite.signedUnits

/-- Whether two numbers are of one sort, integer or double, and equal. -/
def same : Number → Number → Bool
  | .int x, .int y => x == y
  | .real x, .real y => x.signedUnits == y.signedUnits
  | _, _ => false

/-- The text of a number: the digits of an integer, the shortest text of a double. -/
def text : Number → List Char
  | .int value =>
    let digits := Nat.toDigits 10 value.natAbs
    if value < 0 then '-' :: digits else digits
  | .real value => value.text

/-- The number that a numeral of a document denotes: an integer if it has no point and no exponent,
fits 64 bits and is not a negative zero, and a double otherwise; none if it is too large. -/
def Numeral.toNumber? (numeral : Numeral) : Option Number :=
  let (significand, excess) := absorb 0 numeral.whole
  match excess, numeral.fraction, numeral.exponent with
  | [], none, none =>
    if !numeral.negative then some (.int significand)
    else if significand = 0 || Nat.pow 2 63 < significand then
      some (.real (.ofNat true significand))
    else some (.int (-(significand : Int)))
  | _, fraction, exponent =>
    let digits := fraction.getD []
    let (significand, unused) := absorb significand digits
    let point : Int := excess.length - (digits.length - unused.length : Nat)
    (match exponent with
      | none => scaled? numeral.negative significand point
      | some (negative, exponentDigits) =>
        let size := ofDigits exponentDigits
        if size < Nat.pow 2 31 then
          scaled? numeral.negative significand (if negative then point - size else point + size)
        else if significand = 0 || negative then some ⟨numeral.negative, 0⟩
        else none).map .real

end Number

end Workflow
