/-!
# Doubles

The binary floating-point numbers of 64 bits.  Every finite double is a whole number of units of
`2 ^ (-1074)`, the least positive one, so a finite double is kept as its sign and that number, and
comparing and rounding are matters of exact natural numbers.  `roundUnits` rounds a ratio of units
to the nearest representable number, a tie going to the even significand.
-/

namespace Workflow.Number

/-- A finite double: `units` times `2 ^ (-1074)`, negated if `negative`. Zero has both signs. -/
structure Finite where
  negative : Bool
  units : Nat
  deriving DecidableEq, Repr, Inhabited

/-- A double. -/
inductive Double
  | finite (value : Finite)
  | infinite (negative : Bool)
  | notANumber
  deriving DecidableEq, Repr, Inhabited

/-- How many units make one. -/
def one : Nat := Nat.pow 2 1074

/-- The first magnitude that is too large for a finite double. -/
def overflow : Nat := Nat.pow 2 2098

/-- `num / den` rounded to a natural number, a tie going to the even one. -/
def roundRatio (num den : Nat) : Nat :=
  let quotient := num / den
  let twice := 2 * (num % den)
  if twice < den then quotient
  else if den < twice then quotient + 1
  else quotient + quotient % 2

/-- `num / den` units rounded to a representable number of units: one with at most 53 significant
bits. -/
def roundUnits (num den : Nat) : Nat :=
  let quotient := num / den
  if quotient < Nat.pow 2 53 then roundRatio num den
  else
    let step := Nat.pow 2 (quotient.log2 - 52)
    roundRatio num (den * step) * step

/-- The double nearest to `num / den` units; too large a magnitude becomes infinite. -/
def Double.ofRatio (negative : Bool) (num den : Nat) : Double :=
  let units := roundUnits num den
  if units < overflow then .finite ⟨negative, units⟩ else .infinite negative

/-- The double nearest to the number `magnitude`, which is assumed to be below `2 ^ 1000`. -/
def Finite.ofNat (negative : Bool) (magnitude : Nat) : Finite :=
  ⟨negative, roundUnits (magnitude * one) 1⟩

/-- The number of units with its sign, by which finite doubles are ordered: both zeros give 0. -/
def Finite.signedUnits (x : Finite) : Int :=
  if x.negative then -(x.units : Int) else x.units

/-- Order of two doubles; a double that is not a number has no place in it. -/
def Double.compare? : Double → Double → Option Ordering
  | .notANumber, _ => none
  | _, .notANumber => none
  | .finite x, .finite y => some (compare x.signedUnits y.signedUnits)
  | .infinite a, .infinite b => some (compare b.toNat a.toNat)
  | .infinite negative, .finite _ => some (if negative then .lt else .gt)
  | .finite _, .infinite negative => some (if negative then .gt else .lt)

/-- A number below `2 ^ 53` units is represented exactly. -/
theorem roundUnits_one_of_lt {n : Nat} (h : n < Nat.pow 2 53) : roundUnits n 1 = n := by
  have quotient_lt : n / 1 < Nat.pow 2 53 := by rwa [Nat.div_one]
  unfold roundUnits roundRatio
  rw [if_pos quotient_lt, Nat.mod_one, if_pos Nat.one_pos, Nat.div_one]

end Workflow.Number
