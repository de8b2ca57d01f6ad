import Mathlib.Tactic.Ring
import Workflow.Judge
import Workflow.Proofs.Number.Rounding

/-!
# Integers under the rules of comparison

Four validators that hold the same integer against the same expected one answer by one order: the
order of the two nearest doubles.  It is the order of the integers themselves if one of them has at
most 53 binary digits; larger integers that differ can be equal to these rules.
-/

namespace Workflow

namespace Value

variable {a b : Int}

theorem equals_int :
    (number (.int a)).equals (number (.int b)) =
      (compare (Number.nearest a) (Number.nearest b) == .eq) := by
  rw [equals, Number.sameDouble_int, Bool.beq_eq_decide_eq]
  exact decide_eq_decide.mpr Int.compare_eq_eq.symm

theorem compare?_int :
    (number (.int a)).compare? (number (.int b)) =
      some (compare (Number.nearest a) (Number.nearest b)) :=
  Number.compare?_int a b

end Value

namespace Judge

variable {judge : Judge} {value : Value}

/-- The validator `name` holds the integer `a` against the integer `b` by `rule`, wherever it reads
the two, and passes where the rule holds. -/
def Holds (judge : Judge) (value : Value) (rule : Rule) (a b : Int) (name : String) : Prop :=
  ∃ decl, judge.validator name = .ok decl ∧ decl.rule = rule ∧ decl.passesWhen = true ∧
    judge.valueOr decl.subjectPath value = .ok (.number (.int a)) ∧
    judge.valueOr decl.expectedPath decl.expected = .ok (.number (.int b))

/-- The answers of the validators are those for one order of what they compare, so that just one of
`equal`, `greater` and `less` passes. -/
structure AnswersBy (judge : Judge) (value : Value) (equal unequal greater less : String)
    (order : Ordering) : Prop where
  equal : judge.passes equal value = .ok (order == .eq)
  unequal : judge.passes unequal value = .ok (order != .eq)
  greater : judge.passes greater value = .ok (order == .gt)
  less : judge.passes less value = .ok (order == .lt)

theorem Holds.passes_eq {rule : Rule} {a b : Int} {name : String} {outcome : Bool}
    (hholds : judge.Holds value rule a b name)
    (houtcome : rule.outcome judge.readPattern (.number (.int a)) (.number (.int b)) =
      .ok outcome) :
    judge.passes name value = .ok outcome := by
  obtain ⟨decl, hdecl, rfl, hwhen, hsubject, hexpected⟩ := hholds
  unfold passes
  simp only [hdecl, hsubject, hexpected, houtcome, hwhen, Except.mapError, bind, Except.bind, pure,
    Except.pure, beq_true]

section Integers

variable {equal unequal greater less : String} {a b : Int}

/-- The validators see the doubles and not the integers. -/
theorem answersBy_nearest (hequal : judge.Holds value .equals a b equal)
    (hunequal : judge.Holds value .notEquals a b unequal)
    (hgreater : judge.Holds value .greaterThan a b greater)
    (hless : judge.Holds value .lessThan a b less) :
    judge.AnswersBy value equal unequal greater less
      (compare (Number.nearest a) (Number.nearest b)) where
  equal := by
    apply hequal.passes_eq
    rw [Rule.outcome, Value.equals_int]
  unequal := by
    apply hunequal.passes_eq
    rw [Rule.outcome, Value.equals_int]
    rfl
  greater := by
    apply hgreater.passes_eq
    rw [Rule.outcome, Value.compare?_int]
    rfl
  less := by
    apply hless.passes_eq
    rw [Rule.outcome, Value.compare?_int]
    rfl

/-- Integers are compared by the doubles nearest to them.  These are never in the opposite order,
and they are in the same one if one of the integers has at most 53 binary digits. -/
theorem integers_compared (hequal : judge.Holds value .equals a b equal)
    (hunequal : judge.Holds value .notEquals a b unequal)
    (hgreater : judge.Holds value .greaterThan a b greater)
    (hless : judge.Holds value .lessThan a b less) :
    ∃ x y, (∀ z, Number.IsNearest a z ↔ z = x) ∧ (∀ z, Number.IsNearest b z ↔ z = y) ∧
      judge.AnswersBy value equal unequal greater less (compare x y) ∧
      (a ≤ b → x ≤ y) ∧ (b ≤ a → y ≤ x) ∧
      (a.natAbs < 2 ^ 53 ∨ b.natAbs < 2 ^ 53 →
        judge.AnswersBy value equal unequal greater less (compare a b)) := by
  have hanswers := answersBy_nearest hequal hunequal hgreater hless
  refine ⟨Number.nearest a, Number.nearest b, Number.isNearest_iff a, Number.isNearest_iff b,
    hanswers, Number.nearest_le_nearest, Number.nearest_le_nearest, ?_⟩
  intro hsmall
  rwa [Number.compare_nearest hsmall] at hanswers

end Integers

/-- Validators that hold what they are given against one expected value, one for each rule. -/
def against (expected : Value) : Judge where
  validators :=
    [("same", .equals), ("differs", .notEquals), ("over", .greaterThan), ("under", .lessThan)].map
      fun entry => (entry.1, ⟨entry.2, ⟨"", "error"⟩, true, none, none, expected⟩)
  readPattern := default
  state := .object []

theorem against_holds (a b : Int) :
    (against (.number (.int b))).Holds (.number (.int a)) .equals a b "same" ∧
      (against (.number (.int b))).Holds (.number (.int a)) .notEquals a b "differs" ∧
      (against (.number (.int b))).Holds (.number (.int a)) .greaterThan a b "over" ∧
      (against (.number (.int b))).Holds (.number (.int a)) .lessThan a b "under" :=
  ⟨⟨_, rfl, rfl, rfl, rfl, rfl⟩, ⟨_, rfl, rfl, rfl, rfl, rfl⟩, ⟨_, rfl, rfl, rfl, rfl, rfl⟩,
    ⟨_, rfl, rfl, rfl, rfl, rfl⟩⟩

/-- The first integer with 54 digits that is no double lies between two, and goes to the lower. -/
theorem nearest_above_limit :
    compare (Number.nearest 9007199254740993) (Number.nearest 9007199254740992) = .eq := by
  decide +kernel

theorem integers_above_limit :
    (against (.number (.int 9007199254740992))).AnswersBy (.number (.int 9007199254740993))
      "same" "differs" "over" "under" .eq := by
  obtain ⟨hequal, hunequal, hgreater, hless⟩ := against_holds 9007199254740993 9007199254740992
  obtain ⟨x, y, hx, hy, hanswers, -⟩ := integers_compared hequal hunequal hgreater hless
  have hx := (hx _).mp (Number.isNearest_nearest _)
  have hy := (hy _).mp (Number.isNearest_nearest _)
  rwa [← hx, ← hy, nearest_above_limit] at hanswers

/-- Integers of 64 bits are not compared as integers. -/
theorem integers_not_compared_exactly :
    ¬∀ (judge : Judge) (value : Value) (equal unequal greater less : String) (a b : Int),
      -2 ^ 63 ≤ a ∧ a < 2 ^ 64 → -2 ^ 63 ≤ b ∧ b < 2 ^ 64 →
      judge.Holds value .equals a b equal → judge.Holds value .notEquals a b unequal →
      judge.Holds value .greaterThan a b greater → judge.Holds value .lessThan a b less →
      judge.AnswersBy value equal unequal greater less (compare a b) := by
  intro hexact
  obtain ⟨hequal, hunequal, hgreater, hless⟩ := against_holds 9007199254740993 9007199254740992
  have hanswers := answersBy_nearest hequal hunequal hgreater hless
  have hequals := (hexact _ _ _ _ _ _ _ _ (by decide) (by decide) hequal hunequal hgreater
    hless).equal
  rw [hanswers.equal, nearest_above_limit] at hequals
  exact absurd hequals (by decide)

end Judge

end Workflow
