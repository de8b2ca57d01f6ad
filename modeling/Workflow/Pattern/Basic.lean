import Workflow.Pattern.CharSet

/-!
# Patterns

A pattern describes texts: fixed characters, single characters out of a set, places between
characters, groups, sequences, alternatives and repetitions.  Case-insensitive parts are resolved
when a pattern is read, so a pattern means the same wherever it stands.

Patterns are built by `ofSet`, `ofItems`, `ofBranches` and `times`, which keep a simple form: a
sequence holds no sequence and no two literals side by side, alternatives hold no alternatives, and
alternatives that all begin alike begin once.

Nothing about sessions depends on how patterns are read: a host lends its reader, and
`Pattern.reader` is one to lend.  It knows the common syntax.  Classes of characters by a property,
the flags `x`, `u` and `R`, and the edges of words written `\<`, `\>` or with braces are no patterns
to it, though they are to other readers.
-/

namespace Workflow

/-- A condition on a place between characters. -/
inductive Boundary
  | textStart
  | textEnd
  | lineStart
  | lineEnd
  | wordEdge
  | noWordEdge
  deriving DecidableEq, Repr

/-- A pattern. Groups are numbered. The bounds of a repetition count how often its part occurs; a
greedy one would rather have more. -/
inductive Pattern
  | empty
  | literal (chars : List Char)
  | one (set : CharSet)
  | boundary (kind : Boundary)
  | group (number : Nat) (inside : Pattern)
  | sequence (items : List Pattern)
  | choice (branches : List Pattern)
  | repeated (part : Pattern) (least : Nat) (most : Option Nat) (greedy : Bool)
  deriving BEq, Repr

namespace Pattern

mutual

/-- The least number of characters that a match takes up, if there are matches. -/
def leastLength : Pattern → Option Nat
  | .empty | .boundary _ => some 0
  | .literal chars => some chars.length
  | .one set => if set.ranges.isEmpty then none else some 1
  | .group _ inside => leastLength inside
  | .sequence items => leastTotal items
  | .choice branches => leastAmong branches
  | .repeated part least _ _ => (leastLength part).map (· * least)

def leastTotal : List Pattern → Option Nat
  | [] => some 0
  | item :: items =>
    match leastLength item, leastTotal items with
    | some a, some b => some (a + b)
    | _, _ => none

def leastAmong : List Pattern → Option Nat
  | [] => none
  | [branch] => leastLength branch
  | branch :: branches =>
    match leastLength branch, leastAmong branches with
    | some a, some b => some (min a b)
    | _, _ => none

end

mutual

/-- The greatest number of characters that a match takes up, if there is one. -/
def greatestLength : Pattern → Option Nat
  | .empty | .boundary _ => some 0
  | .literal chars => some chars.length
  | .one set => if set.ranges.isEmpty then none else some 1
  | .group _ inside => greatestLength inside
  | .sequence items => greatestTotal items
  | .choice branches => greatestAmong branches
  | .repeated part _ most _ =>
    match greatestLength part, most with
    | some a, some n => some (a * n)
    | _, _ => none

def greatestTotal : List Pattern → Option Nat
  | [] => some 0
  | item :: items =>
    match greatestLength item, greatestTotal items with
    | some a, some b => some (a + b)
    | _, _ => none

def greatestAmong : List Pattern → Option Nat
  | [] => none
  | [branch] => greatestLength branch
  | branch :: branches =>
    match greatestLength branch, greatestAmong branches with
    | some a, some b => some (max a b)
    | _, _ => none

end

def isWidthless (pattern : Pattern) : Bool :=
  pattern.greatestLength == some 0

mutual

def size : Pattern → Nat
  | .empty | .literal _ | .one _ | .boundary _ => 1
  | .group _ inside => size inside + 1
  | .sequence items => sizeOfAll items + 1
  | .choice branches => sizeOfAll branches + 1
  | .repeated part _ _ _ => size part + 1

def sizeOfAll : List Pattern → Nat
  | [] => 0
  | item :: items => size item + sizeOfAll items

end

def ofSet (set : CharSet) : Pattern :=
  match set.ranges with
  | [(low, high)] => if low = high then .literal [Char.ofNat low] else .one set
  | _ => .one set

/-- What a pattern contributes to a sequence that it stands in. -/
def items : Pattern → List Pattern
  | .empty => []
  | .sequence items => items
  | pattern => [pattern]

/-- An item in front of others; two literals side by side become one. -/
def consItem : Pattern → List Pattern → List Pattern
  | .literal chars, .literal more :: rest => .literal (chars ++ more) :: rest
  | item, rest => item :: rest

def ofItems (patterns : List Pattern) : Pattern :=
  match (patterns.flatMap items).foldr consItem [] with
  | [] => .empty
  | [pattern] => pattern
  | patterns => .sequence patterns

/-- What a pattern contributes to alternatives that it is one of. -/
def branches : Pattern → List Pattern
  | .choice branches => branches
  | pattern => [pattern]

/-- The set of the characters that a pattern matches, if it matches single characters by a fixed
one. -/
def fixedChar? : Pattern → Option (Nat × Nat)
  | .literal [c] => some (c.toNat, c.toNat)
  | _ => none

/-- The ranges of the set that a pattern takes a character from. -/
def charRanges? : Pattern → Option (List (Nat × Nat))
  | .one set => some set.ranges
  | _ => none

/-- The longest list that both lists begin with. -/
def commonStart : List Pattern → List Pattern → List Pattern
  | a :: as, b :: bs => if a == b then a :: commonStart as bs else []
  | _, _ => []

def sequence? : Pattern → Option (List Pattern)
  | .sequence items => some items
  | _ => none

/-- What all of some sequences begin with. -/
def sharedStart (patterns : List Pattern) : List Pattern :=
  match patterns.mapM sequence? with
  | some (first :: rest) => rest.foldl commonStart first
  | _ => []

/-- Either of the patterns. Single characters become one set, and what all patterns begin with is
taken out in front, which makes the rest smaller: their size bounds the fuel. -/
def ofBranchesWithin : Nat → List Pattern → Pattern
  | fuel, patterns =>
    match patterns.flatMap branches with
    | [] => .one .none
    | [pattern] => pattern
    | patterns =>
      match patterns.mapM fixedChar?, patterns.mapM charRanges? with
      | some ranges, _ => ofSet (.ofRanges ranges)
      | _, some ranges => ofSet (.ofRanges ranges.flatten)
      | none, none =>
        match fuel, sharedStart patterns with
        | _, [] => .choice patterns
        | 0, _ => .choice patterns
        | fuel + 1, start =>
          let rests := patterns.map fun pattern => ofItems (pattern.items.drop start.length)
          ofItems (start ++ [ofBranchesWithin fuel rests])

def ofBranches (patterns : List Pattern) : Pattern :=
  ofBranchesWithin (sizeOfAll patterns) patterns

/-- A pattern some number of times. What takes up no character need not be matched twice. -/
def times (part : Pattern) (least : Nat) (most : Option Nat) (greedy : Bool) : Pattern :=
  let least := if part.isWidthless then min least 1 else least
  let most := if part.isWidthless then some (min (most.getD 1) 1) else most
  match least, most with
  | 0, some 0 => .empty
  | 1, some 1 => part
  | least, most => .repeated part least most greedy

end Pattern

end Workflow
