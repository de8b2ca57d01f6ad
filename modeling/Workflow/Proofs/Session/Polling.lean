import Workflow.Proofs.Session.Transparency

/-!
# Polling

A pull that comes to a task that waits for input, or to the end, comes to it again as long as
nothing is done in between.  The turn that gives the answer is not undone or gone beyond by another
turn: a child at its breakpoint is marked by then, and after the last flow is left no flow is there
to run.  `Session.poll` is any number of pulls with nothing in between.
-/

namespace Workflow

/-- A stack that is empty has no head. -/
theorem Cursor.head?_of_isEmpty {α : Type} {cursor : Cursor α} (hempty : cursor.isEmpty = true) :
    cursor.head? = none := by
  have hplace : cursor.handle.place = none := by
    simpa [isEmpty, Handle.isEmpty] using hempty
  rw [head?, Arena.head?, hplace, Option.bind_none]

namespace Session

/-- What so many pulls come to, one right after another, and the session after them. -/
def poll : Nat → Session → List Pull × Session
  | 0, s => ([], s)
  | count + 1, s =>
    let polled := s.pull.2.poll count
    (s.pull.1 :: polled.1, polled.2)

/-- A pull comes to the end, or to a task that waits for the program around the session. -/
def Settled (answer : Pull) (s : Session) : Prop :=
  answer = .ended ∨ ∃ id, answer = .task id ∧ s.awaits id = true

section

variable {s s' : Session} {id : TaskId}

theorem exists_of_awaits (hawaits : s.awaits id = true) :
    ∃ task, s.taskAt? id = some task ∧ task.requiresInput = true := by
  cases htask : s.taskAt? id with
  | none =>
      rw [awaits, htask] at hawaits
      cases hawaits
  | some task =>
      rw [awaits_of_taskAt? htask] at hawaits
      exact ⟨task, rfl, hawaits⟩

/-! ## The turn after an answer -/

/-- A turn that works on a flow works on it as well when its child is marked. -/
theorem Working.markInterrupted {scope : ScopeId} {task : Task} {flow : Flow}
    (hwork : s.Working scope id task flow) :
    (s.markInterrupted id).Working scope id (task.mapFlow Flow.interrupted) flow.interrupted where
  running := hwork.running
  head := hwork.head
  bound := hwork.bound
  here := by rw [markInterrupted_eq, taskAt?_modifyFlow, if_pos rfl, hwork.here, Option.map_some]
  incomplete := by rw [(Task.mapFlow_others _ task).2.2.2, hwork.incomplete]
  runs := by rw [Task.flow?_mapFlow, hwork.runs, Option.map_some]

/-- A child that waits for input and is marked is handed out with no change. -/
theorem AtChild.turn_of_marked {scope : ScopeId} {flow : Flow} {child : Child} {inner : Task}
    (hat : s.AtChild scope id flow child inner)
    (hawaits : (s.markInterrupted id).awaits child.task = true) :
    (s.markInterrupted id).turn = (.ok (.handOut child.task), s.markInterrupted id) := by
  obtain ⟨task, hwork⟩ := hat.working
  obtain ⟨marked, hmarked, hinput⟩ := exists_of_awaits hawaits
  have hat' : (s.markInterrupted id).AtChild scope id flow.interrupted
      { child with interrupted := true } marked := by
    refine ⟨⟨_, hwork.markInterrupted⟩, ?_, hmarked⟩
    rw [Flow.interrupted, hat.current, Option.map_some]
  rw [hat'.turn_eq, if_neg (by simp), if_pos hinput]

theorem turn_again_of_handOut (hturn : s.turn = (.ok (.handOut id), s'))
    (hawaits : s'.awaits id = true) : s'.turn = (.ok (.handOut id), s') := by
  obtain ⟨scope, owner, flow, child, inner, hat, rfl, rfl | rfl⟩ := (turned hturn).handsOut
  · exact hturn
  · exact hat.turn_of_marked hawaits

theorem turn_again_of_ended (hturn : s.turn = (.ok .ended, s')) :
    s'.turn = (.ok .ended, s') := by
  cases turned hturn with
  | idle => exact hturn
  | left _ _ _ _ _ hleave =>
      rw [leave] at hleave
      dsimp only at hleave
      split_ifs at hleave with hlast
      · cases hleave
        apply turn_of_not_running
        right
        exact Cursor.head?_of_isEmpty hlast
      · cases hleave

/-- A turn that settles a pull settles it again. -/
theorem turn_again {result : Except Error Turn} {answer : Pull} (hturn : s.turn = (result, s'))
    (hanswer : Turn.answer? result = some answer) (hsettled : Settled answer s') :
    s'.turn = (result, s') := by
  rcases hsettled with rfl | ⟨id, rfl, hawaits⟩
  · have hended : result = .ok .ended := by
      unfold Turn.answer? at hanswer
      split at hanswer <;> cases hanswer
      rfl
    subst hended
    exact turn_again_of_ended hturn
  · obtain rfl := answer?_eq_task hanswer
    exact turn_again_of_handOut hturn hawaits

/-! ## The pulls after an answer -/

/-- The next pull has one turn and comes to the same. -/
theorem Pulls.again {answer : Pull} (hpull : s.Pulls answer s') (hsettled : Settled answer s') :
    s'.pull = (answer, s') := by
  obtain ⟨turns, hwithin, hanswer⟩ := hpull
  obtain ⟨count, r, result, -, hlast, hresult⟩ := exists_last_turn hwithin hanswer
  have hagain : s'.turn = (result, s') := turn_again hlast hresult hsettled
  exact pull_of_turns (.refl s') hagain hresult (lt_turnLimit s' (by decide))

theorem poll_of_pull {answer : Pull} (hpull : s.pull = (answer, s)) (count : Nat) :
    s.poll count = (List.replicate count answer, s) := by
  induction count with
  | zero => rfl
  | succ count ih =>
      rw [poll, hpull]
      dsimp only
      rw [ih, List.replicate_succ]

/-- Once a pull has come to the end or to a task that waits for input, any number of further pulls
come to the same and leave the whole session as it is. -/
theorem poll_idempotent {answer : Pull} (hpull : s.Pulls answer s')
    (hsettled : answer = .ended ∨ ∃ id, answer = .task id ∧ s'.awaits id = true) (count : Nat) :
    s'.poll count = (List.replicate count answer, s') :=
  poll_of_pull (hpull.again hsettled) count

end

/-- The session of `detourDocument` with a breakpoint on its first screen. -/
def detourStopped : Session :=
  initial detourDocument { breakpoints := ["welcome"] } true {}

/-- The session of `detourDocument` with all its screens completed. -/
def detourDone : Session :=
  (((detourFirst.click ⟨3⟩ "next").2.pull.2.click ⟨4⟩ "next").2.pull.2.click ⟨5⟩ "next").2

/-- The first pull marks the screen for its breakpoint, and those that follow change nothing; a
session that has come to its end stays there. -/
theorem detour_polled :
    detourStopped.pull.2 ≠ detourStopped ∧
      detourStopped.pull.2.poll 2 = ([.task ⟨1⟩, .task ⟨1⟩], detourStopped.pull.2) ∧
      detourDone.pull.2 ≠ detourDone ∧
      detourDone.pull.2.poll 2 = ([.ended, .ended], detourDone.pull.2) := by
  have hstopped : detourStopped.Pulls (.task ⟨1⟩) detourStopped.pull.2 :=
    Pulls.of_pull (by decide +kernel)
  have hawaits : detourStopped.pull.2.awaits ⟨1⟩ = true := by decide +kernel
  have hended : detourDone.pull.1 = .ended := by decide +kernel
  have hdone : detourDone.Pulls .ended detourDone.pull.2 :=
    ⟨detourDone.turnLimit, Prod.ext hended rfl, Pull.noConfusion⟩
  exact ⟨ne_of_apply_ne Session.tasks (by decide +kernel),
    poll_idempotent hstopped (.inr ⟨⟨1⟩, rfl, hawaits⟩) 2,
    ne_of_apply_ne Session.tasks (by decide +kernel), poll_idempotent hdone (.inl rfl) 2⟩

end Session

end Workflow
