import Workflow.Document.Declaration
import Workflow.Error
import Workflow.Host
import Workflow.Text.Blank
import Workflow.Value.Text

/-!
# Rules

A rule compares a subject with an expected value.  Numbers are compared as doubles, and strings that
hold a number take part in comparisons of size.  A pattern must be a string that the host reads as a
pattern even where the subject is no string.
-/

namespace Workflow

namespace Value

/-- The length that a rule on lengths sees: characters of a string, items of a list, characters of
the text of anything else, and nothing for null. -/
def length : Value → Nat
  | .null => 0
  | .string text => text.length
  | .list items => items.length
  | value => value.chars.length

/-- Whether the length of a value is within the bounds that `expected` gives: a least length, or an
object with a least and a greatest one. -/
def hasLength (subject expected : Value) : Bool :=
  let least := match expected with
    | .object fields => (Keyed.get? "min" fields).bind toNat?
    | other => other.toNat?
  let most := (expected.field? "max").bind toNat?
  least.getD 0 ≤ subject.length && most.all (subject.length ≤ ·)

/-- Whether two values are equal; two numbers are if they round to the same double. -/
def equals : Value → Value → Bool
  | .number a, .number b => a.sameDouble b
  | a, b => a.same b

/-- The double that a number or a string stands for. -/
def toDouble? : Value → Option Number.Double
  | .number n => some (.finite n.toFinite)
  | .string text => Number.readDouble? (Text.trim text.toList)
  | _ => none

def compare? (a b : Value) : Option Ordering :=
  match a.toDouble?, b.toDouble? with
  | some x, some y => x.compare? y
  | _, _ => none

/-- Whether a pattern occurs in a value, which must be a string. -/
def hasMatch (readPattern : PatternReader) (subject expected : Value) : Except RuleFault Bool :=
  match expected with
  | .string text =>
    match readPattern text with
    | .ok occursIn =>
      .ok (match subject with
        | .string subject => occursIn subject
        | _ => false)
    | .error reason => .error (.badPattern reason)
  | _ => .error .noPattern

end Value

def Rule.outcome (rule : Rule) (readPattern : PatternReader) (subject expected : Value) :
    Except RuleFault Bool :=
  match rule with
  | .isLength => .ok (subject.hasLength expected)
  | .equals => .ok (subject.equals expected)
  | .notEquals => .ok (!subject.equals expected)
  | .greaterThan => .ok (subject.compare? expected == some .gt)
  | .lessThan => .ok (subject.compare? expected == some .lt)
  | .matchesPattern => subject.hasMatch readPattern expected

end Workflow
