import Workflow.Proofs.Pattern.Walks

/-!
# Copies of a repeated part

A part that is repeated is stepped copy by copy.  Each copy is ahead of the next one, and a last
copy that loops enters itself again, `Walk.copies`.  What is kept between two places is the copies
under way; `underWay` picks them out of all copies, and with it `stepCopies` is a step of this walk.
-/

namespace Workflow.Pattern

theorem Progress.eq_idle {progress : Progress} (hidle : progress.isIdle = true) :
    progress = .idle := by
  cases progress with
  | idle => rfl
  | _ => cases hidle

namespace Walk

def ofSteps (step : Place → Stepper) : Walk Progress where
  start := .idle
  step place progress enter :=
    let result := step place progress enter
    (result.progress, result.ends)

/-- The copies of a part from the one numbered `next` on. The whole ends with every copy that has
enough others in front of it. -/
def copies (part : Walk Progress) (least : Nat) (loops : Bool) : Nat → Nat → Walk (List Progress)
  | 0, _ => silent
  | more + 1, next =>
    (if loops && more == 0 then part.again else part).ahead (least ≤ next + 1)
      (part.copies least loops more (next + 1))

section

variable {text : List Char} {part : Walk Progress} {R : Nat → Nat → Prop} {least next count : Nat}
  {loops : Bool}

theorem Follows.copies (hfollows : part.Follows text R) (hle : ∀ {i j}, R i j → i ≤ j)
    (hloops : loops = true → 0 < count ∧ least ≤ next + count) :
    (part.copies least loops count next).Follows text fun i j =>
      ∃ more, (loops = false → more < count) ∧ least ≤ next + more + 1 ∧
        Times R (more + 1) i j := by
  induction count generalizing next with
  | zero =>
    refine silent_follows.congr fun i j => ⟨False.elim, ?_⟩
    rintro ⟨more, hmore, -, -⟩
    cases loops with
    | true => exact absurd (hloops rfl).1 (Nat.lt_irrefl 0)
    | false => exact absurd (hmore rfl) (Nat.not_lt_zero more)
  | succ count ih =>
    -- Only the last copy may enter itself again; in front of it a copy is a single match.
    by_cases hlast : loops = true ∧ count = 0
    · obtain ⟨rfl, rfl⟩ := hlast
      have hleast : least ≤ next + 1 := (hloops rfl).2
      refine ((hfollows.again hle).ahead silent_follows).congr fun i j => ?_
      constructor
      · rintro (⟨-, more, htimes⟩ | ⟨-, -, hnever⟩)
        · exact ⟨more, nofun, by omega, htimes⟩
        · exact hnever.elim
      · rintro ⟨more, -, -, htimes⟩
        exact .inl ⟨decide_eq_true hleast, more, htimes⟩
    · have hsteps : part.copies least loops (count + 1) next =
          part.ahead (least ≤ next + 1) (part.copies least loops count (next + 1)) := by
        rw [Walk.copies, if_neg (by simpa using hlast)]
      have hothers : loops = true → 0 < count ∧ least ≤ next + 1 + count := by
        intro h
        have hcount : count ≠ 0 := fun hzero => hlast ⟨h, hzero⟩
        have := hloops h
        omega
      rw [hsteps]
      refine (hfollows.ahead (ih hothers)).congr fun i j => ?_
      constructor
      · rintro (⟨hleast, hR⟩ | ⟨k, hR, more, hmore, hleast, htimes⟩)
        · exact ⟨0, fun _ => Nat.succ_pos count, of_decide_eq_true hleast, j, hR, rfl⟩
        · exact ⟨more + 1, fun h => Nat.succ_lt_succ (hmore h), by omega, k, hR, htimes⟩
      · rintro ⟨_ | more, hmore, hleast, k, hR, htimes⟩
        · cases htimes
          exact .inl ⟨decide_eq_true hleast, hR⟩
        · exact .inr ⟨k, hR, more, fun h => Nat.lt_of_succ_lt_succ (hmore h), by omega, htimes⟩

theorem step_copy {steps : Place → Stepper} {place : Place} {progress : Progress}
    {enter last : Bool} :
    (if last then (ofSteps steps).again else ofSteps steps).step place progress enter =
      let once := steps place progress enter
      let result := if last && once.ends && !enter then steps place progress true else once
      (result.progress, result.ends) := by
  cases last with
  | false => rfl
  | true =>
    by_cases hagain : ((steps place progress enter).ends && !enter) = true
    · refine (if_pos hagain).trans ?_
      simp only [ofSteps, Bool.true_and, if_pos hagain]
    · refine (if_neg hagain).trans ?_
      simp only [ofSteps, Bool.true_and, if_neg hagain]

theorem copies_step_cons {place : Place} {progress : Progress} {others : List Progress}
    {enter : Bool} :
    (part.copies least loops (count + 1) next).step place (progress :: others) enter =
      let one := (if loops && count == 0 then part.again else part).step place progress enter
      let rest := (part.copies least loops count (next + 1)).step place others one.2
      (one.1 :: rest.1, (one.2 && least ≤ next + 1) || rest.2) := rfl

theorem copies_start {steps : Place → Stepper} :
    ((ofSteps steps).copies least loops count next).start = List.replicate count .idle := by
  induction count generalizing next with
  | zero => rfl
  | succ count ih =>
    simp only [copies, ahead, ih, List.replicate_succ, List.cons.injEq, and_true]
    split <;> rfl

theorem length_copies_step {place : Place} {progress : List Progress} {enter : Bool} :
    ((part.copies least loops count next).step place progress enter).1.length = count := by
  induction count generalizing next progress enter with
  | zero => rfl
  | succ count ih => exact congrArg (· + 1) ih

end

end Walk

/-! ## The copies under way -/

/-- The copies that are under way, with their numbers from `next` on. -/
def underWay (next : Nat) : List Progress → List (Nat × Progress)
  | [] => []
  | progress :: others =>
    if progress.isIdle then underWay (next + 1) others
    else (next, progress) :: underWay (next + 1) others

theorem le_of_mem_underWay {next : Nat} {all : List Progress} {copy : Nat × Progress}
    (hmem : copy ∈ underWay next all) : next ≤ copy.1 := by
  induction all generalizing next with
  | nil => cases hmem
  | cons progress others ih =>
    rw [underWay] at hmem
    split at hmem
    · exact Nat.le_of_succ_le (ih hmem)
    · rcases List.mem_cons.mp hmem with rfl | hmem
      · exact Nat.le_refl _
      · exact Nat.le_of_succ_le (ih hmem)

theorem underWay_replicate (next count : Nat) :
    underWay next (List.replicate count .idle) = [] := by
  induction count generalizing next with
  | zero => rfl
  | succ count ih => exact ih (next + 1)

section

variable {step : Stepper} {least count fuel next : Nat} {loops enter ends : Bool}
  {active done : List (Nat × Progress)}

/-- A copy that is not under way is passed over where it may not begin. -/
theorem stepCopies_passOver : stepCopies step least count loops fuel next active false done ends =
    stepCopies step least count loops fuel (next + 1) active false done ends := by
  cases fuel with
  | zero => rfl
  | succ fuel => cases active <;> simp [stepCopies]

/-- The copy to step next is the first one under way, or one in front of it that may begin. -/
theorem stepCopies_here {count : Nat} {progress : Progress} {others : List Progress}
    (hcount : next < count) (hsteps : progress.isIdle = false ∨ enter = true) :
    stepCopies step least count loops (fuel + 1) next (underWay next (progress :: others)) enter
        done ends =
      let once := step progress enter
      let result :=
        if loops && next + 1 == count && once.ends && !enter then step progress true else once
      stepCopies step least count loops fuel (next + 1) (underWay (next + 1) others) result.ends
        (if result.progress.isIdle then done else (next, result.progress) :: done)
        (ends || (result.ends && least ≤ next + 1)) := by
  have hleft : ¬count ≤ next := Nat.not_le.mpr hcount
  cases hidle : progress.isIdle with
  | false => simp [stepCopies, underWay, hidle, hleft]
  | true =>
    obtain rfl := Progress.eq_idle hidle
    obtain rfl : enter = true := by simpa [hidle] using hsteps
    rw [underWay, if_pos hidle]
    cases hactive : underWay (next + 1) others with
    | nil => simp [stepCopies, hleft]
    | cons copy active =>
      have hlater : next < copy.1 :=
        le_of_mem_underWay (hactive ▸ List.mem_cons_self : copy ∈ underWay (next + 1) others)
      simp [stepCopies, hleft, hlater]

end

/-- The steps of the copies under way are the steps of all copies. -/
theorem stepCopies_underWay (steps : Place → Stepper) {place : Place} {least count fuel next : Nat}
    {loops enter ends : Bool} {all : List Progress} {done : List (Nat × Progress)}
    (hidle : steps place .idle false = ⟨.idle, false⟩) (hcount : count = next + all.length)
    (hfuel : all.length ≤ fuel) :
    stepCopies (steps place) least count loops fuel next (underWay next all) enter done ends =
      let result := ((Walk.ofSteps steps).copies least loops all.length next).step place all enter
      ⟨.ofCopies (done.reverse ++ underWay next result.1), ends || result.2⟩ := by
  induction all generalizing fuel next enter done ends with
  | nil =>
    cases fuel with
    | zero => simp [stepCopies, underWay, Walk.copies, Walk.silent]
    | succ fuel => simp [stepCopies, underWay, Walk.copies, Walk.silent, hcount]
  | cons progress others ih =>
    have hnext : count = next + 1 + others.length := by
      rw [hcount, List.length_cons]
      omega
    have hlast : (next + 1 == count) = (others.length == 0) := by
      rw [Bool.eq_iff_iff, beq_iff_eq, beq_iff_eq]
      omega
    rw [List.length_cons] at hfuel ⊢
    -- A copy neither under way nor entered is not in the list, and costs no fuel.
    by_cases hsteps : progress.isIdle = false ∨ enter = true
    · obtain ⟨fuel, rfl⟩ : ∃ less, fuel = less + 1 := Nat.exists_eq_add_one.mpr (by omega)
      rw [stepCopies_here (by omega) hsteps, hlast, Walk.copies_step_cons, Walk.step_copy,
        ih hnext (by omega)]
      dsimp only
      generalize (if (loops && others.length == 0 && (steps place progress enter).ends &&
        !enter) = true then steps place progress true else steps place progress enter) = one
      cases hnone : one.progress.isIdle with
      | true => simp [underWay, hnone, Bool.or_assoc]
      | false => simp [underWay, hnone, Bool.or_assoc]
    · obtain ⟨hnone, rfl⟩ : progress.isIdle = true ∧ enter = false := by simpa using hsteps
      obtain rfl := Progress.eq_idle hnone
      rw [underWay, if_pos hnone, stepCopies_passOver, Walk.copies_step_cons, Walk.step_copy,
        ih hnext (by omega)]
      simp [hidle, underWay, hnone]

end Workflow.Pattern
