import Workflow.Text.Digit
import Workflow.Text.Folding
import Workflow.Text.Word

/-!
# Sets of characters

A set of characters is kept as the ranges of its codes, in order and with a gap between any two, so
two sets with the same characters are written the same way.  Codes of surrogates stand for no
character and may lie in a range or outside without a difference.
-/

namespace Workflow

/-- A set of characters: ranges of codes, ends included, in order, with a gap between any two. -/
structure CharSet where
  ranges : List (Nat × Nat)
  deriving DecidableEq, Repr

namespace CharSet

def lastCode : Nat := 0x10FFFF

/-- Whether a code lies in one of the ranges, which are in order. -/
def hasIn (n : Nat) : List (Nat × Nat) → Bool
  | [] => false
  | (low, high) :: rest => low ≤ n && (n ≤ high || hasIn n rest)

/-- Whether the character with the code `n` belongs to a set. -/
def has (set : CharSet) (n : Nat) : Bool :=
  hasIn n set.ranges

/-- A range and those after it, in order of their lower ends, with touching ranges made one. -/
def join (low high : Nat) : List (Nat × Nat) → List (Nat × Nat)
  | [] => [(low, high)]
  | (nextLow, nextHigh) :: rest =>
    if nextLow ≤ high + 1 then join low (max high nextHigh) rest
    else (low, high) :: join nextLow nextHigh rest

def ofRanges (ranges : List (Nat × Nat)) : CharSet :=
  match ranges.mergeSort (fun a b => a.1 ≤ b.1) with
  | [] => ⟨[]⟩
  | (low, high) :: rest => ⟨join low high rest⟩

def ofCodes (codes : List Nat) : CharSet :=
  ofRanges (codes.map fun n => (n, n))

def none : CharSet := ⟨[]⟩

def any : CharSet := ⟨[(0, lastCode)]⟩

def single (c : Char) : CharSet := ⟨[(c.toNat, c.toNat)]⟩

def blank : CharSet := ⟨Text.blankRanges⟩

def digit : CharSet := ⟨Text.digitRanges⟩

def word : CharSet := ⟨Text.wordRanges⟩

def union (a b : CharSet) : CharSet :=
  ofRanges (a.ranges ++ b.ranges)

/-- The code of a character after `n`; surrogates are passed by. -/
def codeAfter (n : Nat) : Nat :=
  if n = 0xD7FF then 0xE000 else n + 1

/-- The code of a character before `n`; surrogates are passed by. -/
def codeBefore (n : Nat) : Nat :=
  if n = 0xE000 then 0xD7FF else n - 1

def gaps (start : Nat) : List (Nat × Nat) → List (Nat × Nat)
  | [] => if start ≤ lastCode then [(start, lastCode)] else []
  | (low, high) :: rest =>
    if start < low then (start, codeBefore low) :: gaps (codeAfter high) rest
    else gaps (codeAfter high) rest

def complement (set : CharSet) : CharSet :=
  ⟨gaps 0 set.ranges⟩

def both (a b : CharSet) : CharSet :=
  (a.complement.union b.complement).complement

/-- The characters that are the same as one of the set up to case: those that fold to what a
character of the set folds to. -/
def upToCase (set : CharSet) : CharSet :=
  let images := ofCodes (Text.foldings.filterMap fun (n, image) =>
    if set.has n || set.has image then some image else Option.none)
  let sources := Text.foldings.filterMap fun (n, image) =>
    if images.has image then some (n, n) else Option.none
  ofRanges (set.ranges ++ images.ranges ++ sources)

end CharSet

end Workflow
