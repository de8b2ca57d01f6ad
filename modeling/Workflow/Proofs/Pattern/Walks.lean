import Workflow.Pattern.Matching

/-!
# Walks over a text

A walk goes over a text from place to place.  At each place it may be entered, and it may end there;
between two places it keeps a state.  It follows a relation between places if it ends exactly where
the relation leads from a place at which it was entered, `Walk.Follows`.

Walks are put together: one ahead of another, two side by side, one that enters itself again.  What
the whole follows comes from what the parts follow.
-/

namespace Workflow.Pattern

/-- A walk: the state that it starts in, and what it does at a place, in a state and entered or not:
the state behind the place, and whether it ends there. -/
structure Walk (σ : Type) where
  start : σ
  step : Place → σ → Bool → σ × Bool

/-- The place of a text in front of the character with the given number. -/
def placeOf (text : List Char) (n : Nat) : Place where
  before := match n with
    | 0 => none
    | n + 1 => text[n]?
  after := text[n]?

/-- A relation so many times in a row. -/
def Times (R : Nat → Nat → Prop) : Nat → Nat → Nat → Prop
  | 0, i, j => i = j
  | count + 1, i, j => ∃ k, R i k ∧ Times R count k j

theorem times_succ_iff {R : Nat → Nat → Prop} {count i j : Nat} :
    Times R (count + 1) i j ↔ ∃ k, Times R count i k ∧ R k j := by
  induction count generalizing i with
  | zero => simp [Times]
  | succ count ih =>
    constructor
    · rintro ⟨k, hfirst, hrest⟩
      obtain ⟨l, hbetween, hlast⟩ := ih.mp hrest
      exact ⟨l, ⟨k, hfirst, hbetween⟩, hlast⟩
    · rintro ⟨l, ⟨k, hfirst, hbetween⟩, hlast⟩
      exact ⟨k, hfirst, ih.mpr ⟨l, hbetween, hlast⟩⟩

theorem times_le {R : Nat → Nat → Prop} (hle : ∀ {i j}, R i j → i ≤ j) {count i j : Nat}
    (htimes : Times R count i j) : i ≤ j := by
  induction count generalizing i with
  | zero => exact Nat.le_of_eq htimes
  | succ count ih =>
    obtain ⟨k, hfirst, hrest⟩ := htimes
    exact Nat.le_trans (hle hfirst) (ih hrest)

namespace Walk

variable {σ τ : Type} {text : List Char} {enters : Nat → Bool} {n : Nat}

/-- The state in front of a place. -/
def stateAt (walk : Walk σ) (text : List Char) (enters : Nat → Bool) : Nat → σ
  | 0 => walk.start
  | n + 1 => (walk.step (placeOf text n) (walk.stateAt text enters n) (enters n)).1

/-- Whether the walk ends at a place. -/
def endsAt (walk : Walk σ) (text : List Char) (enters : Nat → Bool) (n : Nat) : Bool :=
  (walk.step (placeOf text n) (walk.stateAt text enters n) (enters n)).2

/-- The walk ends exactly where the relation leads from a place at which it was entered. -/
def Follows (walk : Walk σ) (text : List Char) (R : Nat → Nat → Prop) : Prop :=
  ∀ enters n, walk.endsAt text enters n = true ↔ ∃ i, enters i = true ∧ R i n

theorem Follows.congr {walk : Walk σ} {R S : Nat → Nat → Prop} (hfollows : walk.Follows text R)
    (hsame : ∀ i j, R i j ↔ S i j) : walk.Follows text S := by
  intro enters n
  rw [hfollows enters n]
  exact exists_congr fun i => and_congr_right fun _ => hsame i n

/-- The state in front of a place depends on the places before it only. -/
theorem stateAt_congr {walk : Walk σ} {enters' : Nat → Bool}
    (hsame : ∀ m < n, enters m = enters' m) :
    walk.stateAt text enters n = walk.stateAt text enters' n := by
  induction n with
  | zero => rfl
  | succ n ih =>
    rw [stateAt, stateAt, hsame n (Nat.lt_succ_self n),
      ih fun m hm => hsame m (Nat.lt_succ_of_lt hm)]

/-- Walks end at the same places if their states correspond at all of them. -/
theorem endsAt_eq_of_simulates {walk : Walk σ} {other : Walk τ} (Corresponds : σ → τ → Prop)
    (hstart : Corresponds walk.start other.start)
    (hstep : ∀ place s t enter, Corresponds s t →
      Corresponds (walk.step place s enter).1 (other.step place t enter).1 ∧
        (walk.step place s enter).2 = (other.step place t enter).2) :
    walk.endsAt text enters n = other.endsAt text enters n := by
  have hstates : ∀ n, Corresponds (walk.stateAt text enters n) (other.stateAt text enters n) := by
    intro n
    induction n with
    | zero => exact hstart
    | succ n ih => exact (hstep _ _ _ _ ih).1
  exact (hstep _ _ _ _ (hstates n)).2

theorem Follows.of_simulates {walk : Walk σ} {other : Walk τ} {R : Nat → Nat → Prop}
    (hfollows : other.Follows text R) (Corresponds : σ → τ → Prop)
    (hstart : Corresponds walk.start other.start)
    (hstep : ∀ place s t enter, Corresponds s t →
      Corresponds (walk.step place s enter).1 (other.step place t enter).1 ∧
        (walk.step place s enter).2 = (other.step place t enter).2) :
    walk.Follows text R := by
  intro enters n
  rw [endsAt_eq_of_simulates Corresponds hstart hstep]
  exact hfollows enters n

/-! ## Walks put together -/

/-- A walk that never ends. -/
def silent : Walk (List Progress) where
  start := []
  step _ _ _ := ([], false)

/-- A walk, and another one that is entered where the first one ends. The whole ends with the second
one and, if `early` is set, with the first one too. -/
def ahead (first : Walk Progress) (early : Bool) (rest : Walk (List Progress)) :
    Walk (List Progress) where
  start := first.start :: rest.start
  step place states enter :=
    let one := first.step place (states.headD .idle) enter
    let others := rest.step place states.tail one.2
    (one.1 :: others.1, (one.2 && early) || others.2)

/-- Two walks that are entered together. -/
def beside (first : Walk Progress) (rest : Walk (List Progress)) : Walk (List Progress) where
  start := first.start :: rest.start
  step place states enter :=
    let one := first.step place (states.headD .idle) enter
    let others := rest.step place states.tail enter
    (one.1 :: others.1, one.2 || others.2)

/-- A walk that ends where it is entered, too, if `here` is set. -/
def orHere (walk : Walk σ) (here : Bool) : Walk σ where
  start := walk.start
  step place state enter :=
    let result := walk.step place state enter
    (result.1, (enter && here) || result.2)

/-- A walk that is entered where it ends, too. -/
def again (walk : Walk Progress) : Walk Progress where
  start := walk.start
  step place state enter :=
    let once := walk.step place state enter
    if once.2 && !enter then walk.step place state true else once

section

variable {first : Walk Progress} {rest : Walk (List Progress)} {early : Bool}
  {R S : Nat → Nat → Prop}

theorem silent_follows : silent.Follows text fun _ _ => False := by
  intro enters n
  simp [endsAt, silent]

theorem stateAt_ahead : (first.ahead early rest).stateAt text enters n =
    first.stateAt text enters n :: rest.stateAt text (first.endsAt text enters) n := by
  induction n with
  | zero => rfl
  | succ n ih =>
    rw [stateAt, ih]
    rfl

theorem endsAt_ahead : (first.ahead early rest).endsAt text enters n =
    ((first.endsAt text enters n && early) ||
      rest.endsAt text (first.endsAt text enters) n) := by
  rw [endsAt, stateAt_ahead]
  rfl

theorem Follows.ahead (hfirst : first.Follows text R) (hrest : rest.Follows text S) :
    (first.ahead early rest).Follows text fun i j =>
      (early = true ∧ R i j) ∨ ∃ k, R i k ∧ S k j := by
  intro enters n
  rw [endsAt_ahead, Bool.or_eq_true, Bool.and_eq_true, hfirst, hrest]
  constructor
  · rintro (⟨⟨i, hi, hR⟩, hearly⟩ | ⟨k, hk, hS⟩)
    · exact ⟨i, hi, .inl ⟨hearly, hR⟩⟩
    · obtain ⟨i, hi, hR⟩ := (hfirst enters k).mp hk
      exact ⟨i, hi, .inr ⟨k, hR, hS⟩⟩
  · rintro ⟨i, hi, ⟨hearly, hR⟩ | ⟨k, hR, hS⟩⟩
    · exact .inl ⟨⟨i, hi, hR⟩, hearly⟩
    · exact .inr ⟨k, (hfirst enters k).mpr ⟨i, hi, hR⟩, hS⟩

theorem stateAt_beside : (first.beside rest).stateAt text enters n =
    first.stateAt text enters n :: rest.stateAt text enters n := by
  induction n with
  | zero => rfl
  | succ n ih =>
    rw [stateAt, ih]
    rfl

theorem endsAt_beside : (first.beside rest).endsAt text enters n =
    (first.endsAt text enters n || rest.endsAt text enters n) := by
  rw [endsAt, stateAt_beside]
  rfl

theorem Follows.beside (hfirst : first.Follows text R) (hrest : rest.Follows text S) :
    (first.beside rest).Follows text fun i j => R i j ∨ S i j := by
  intro enters n
  rw [endsAt_beside, Bool.or_eq_true, hfirst, hrest]
  simp only [and_or_left, exists_or]

end

theorem stateAt_orHere {walk : Walk σ} {here : Bool} :
    (walk.orHere here).stateAt text enters n = walk.stateAt text enters n := by
  induction n with
  | zero => rfl
  | succ n ih =>
    rw [stateAt, ih]
    rfl

theorem Follows.orHere {walk : Walk σ} {here : Bool} {R : Nat → Nat → Prop}
    (hfollows : walk.Follows text R) :
    (walk.orHere here).Follows text fun i j => (here = true ∧ i = j) ∨ R i j := by
  intro enters n
  have hends : (walk.orHere here).endsAt text enters n =
      ((enters n && here) || walk.endsAt text enters n) := by
    rw [endsAt, stateAt_orHere]
    rfl
  rw [hends, Bool.or_eq_true, Bool.and_eq_true, hfollows]
  constructor
  · rintro (⟨henter, hhere⟩ | ⟨i, henter, hR⟩)
    · exact ⟨n, henter, .inl ⟨hhere, rfl⟩⟩
    · exact ⟨i, henter, .inr hR⟩
  · rintro ⟨i, henter, ⟨hhere, rfl⟩ | hR⟩
    · exact .inl ⟨henter, hhere⟩
    · exact .inr ⟨i, henter, hR⟩

/-! ## Walks that enter themselves -/

section

variable {walk : Walk Progress} {R : Nat → Nat → Prop}

/-- Where a walk that enters itself again is entered, by itself or not. -/
def reentered (walk : Walk Progress) (text : List Char) (enters : Nat → Bool) (n : Nat) : Bool :=
  enters n ||
    (walk.step (placeOf text n) (walk.again.stateAt text enters n) (enters n)).2

/-- Where it is entered if from the place `n` on it is entered from outside only. -/
def enteredBefore (walk : Walk Progress) (text : List Char) (enters : Nat → Bool) (n m : Nat) :
    Bool :=
  if m < n then walk.reentered text enters m else enters m

theorem again_step_eq (place : Place) (state : Progress) (enter : Bool) :
    walk.again.step place state enter =
      walk.step place state (enter || (walk.step place state enter).2) := by
  cases enter with
  | true => simp [again]
  | false =>
    cases hends : (walk.step place state false).2 with
    | true => simp [again, hends]
    | false => simp [again, hends]

theorem stateAt_again :
    walk.again.stateAt text enters n = walk.stateAt text (walk.reentered text enters) n := by
  induction n with
  | zero => rfl
  | succ n ih => rw [stateAt, stateAt, ← ih, again_step_eq, reentered]

theorem endsAt_again :
    walk.again.endsAt text enters n = walk.endsAt text (walk.reentered text enters) n := by
  rw [endsAt, endsAt, ← stateAt_again, again_step_eq, reentered]

/-- A walk is entered where it is entered from outside, and where it leads from such a place. -/
theorem Follows.reentered_iff (hfollows : walk.Follows text R) (hle : ∀ {i j}, R i j → i ≤ j) :
    walk.reentered text enters n = true ↔
      enters n = true ∨ ∃ i < n, walk.reentered text enters i = true ∧ R i n := by
  have hbefore : ∀ m < n, walk.reentered text enters m = walk.enteredBefore text enters n m :=
    fun m hm => (if_pos hm).symm
  have hhere : walk.enteredBefore text enters n n = enters n := if_neg (Nat.lt_irrefl n)
  have hends : (walk.step (placeOf text n) (walk.again.stateAt text enters n) (enters n)).2 =
      walk.endsAt text (walk.enteredBefore text enters n) n := by
    rw [endsAt, stateAt_again, stateAt_congr hbefore, hhere]
  rw [reentered, Bool.or_eq_true, hends, hfollows]
  constructor
  · rintro (henter | ⟨i, hi, hR⟩)
    · exact .inl henter
    · rcases Nat.lt_or_eq_of_le (hle hR) with hlt | rfl
      · exact .inr ⟨i, hlt, (hbefore i hlt).trans hi, hR⟩
      · exact .inl (hhere ▸ hi)
  · rintro (henter | ⟨i, hlt, hi, hR⟩)
    · exact .inl henter
    · exact .inr ⟨i, (hbefore i hlt).symm.trans hi, hR⟩

theorem Follows.reentered_iff_times (hfollows : walk.Follows text R)
    (hle : ∀ {i j}, R i j → i ≤ j) :
    walk.reentered text enters n = true ↔
      ∃ i, enters i = true ∧ ∃ count, Times R count i n := by
  constructor
  · intro hentered
    induction n using Nat.strongRecOn with
    | ind n ih =>
      rcases (hfollows.reentered_iff hle).mp hentered with henter | ⟨k, hlt, hk, hR⟩
      · exact ⟨n, henter, 0, rfl⟩
      · obtain ⟨i, hi, count, htimes⟩ := ih k hlt hk
        exact ⟨i, hi, count + 1, times_succ_iff.mpr ⟨k, htimes, hR⟩⟩
  · rintro ⟨i, hi, count, htimes⟩
    induction count generalizing n with
    | zero =>
      subst htimes
      exact (hfollows.reentered_iff hle).mpr (.inl hi)
    | succ count ih =>
      obtain ⟨k, hbefore, hR⟩ := times_succ_iff.mp htimes
      rcases Nat.lt_or_eq_of_le (hle hR) with hlt | rfl
      · exact (hfollows.reentered_iff hle).mpr (.inr ⟨k, hlt, ih hbefore, hR⟩)
      · exact ih hbefore

/-- A walk that enters itself follows its relation any number of times, but at least once. -/
theorem Follows.again (hfollows : walk.Follows text R) (hle : ∀ {i j}, R i j → i ≤ j) :
    walk.again.Follows text fun i j => ∃ count, Times R (count + 1) i j := by
  intro enters n
  rw [endsAt_again, hfollows]
  constructor
  · rintro ⟨k, hk, hR⟩
    obtain ⟨i, hi, count, htimes⟩ := (hfollows.reentered_iff_times hle).mp hk
    exact ⟨i, hi, count, times_succ_iff.mpr ⟨k, htimes, hR⟩⟩
  · rintro ⟨i, hi, count, htimes⟩
    obtain ⟨k, hbefore, hR⟩ := times_succ_iff.mp htimes
    exact ⟨k, (hfollows.reentered_iff_times hle).mpr ⟨i, hi, count, hbefore⟩, hR⟩

end

end Walk

end Workflow.Pattern
