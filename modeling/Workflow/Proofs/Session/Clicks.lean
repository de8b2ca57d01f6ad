import Mathlib.Data.Prod.Basic
import Workflow.Proofs.Session.Confinement
import Workflow.Proofs.Session.Failures

/-!
# Clicks that fail

A click either presses a component, `Session.Presses`, or it is refused and nothing at all happens.
What is refused is refused before anything is changed, in filling in and answering as well: once a
component is pressed, a click fails only because of a path or a pattern.

What a pressed component holds is kept when the click fails.  The history and the events are not
kept in every case: a screen is recorded before its result is computed, so a screen without a result
stays open and is recorded at every attempt to leave it, `Session.Unfinished`.
-/

namespace Workflow

open Error

/-- The task, its screen or the component does not take that input. -/
def Error.isRefusal : Error → Bool
  | .taskIsComplete _ | .otherSort .. | .notShown .. | .holdsNoValue _ | .cannotBeClicked _ |
    .disabledComponent _ => true
  | _ => false

theorem Error.not_isRefusal {error : Error} (hrule : error.ofRule = true) :
    error.isRefusal = false := by
  cases error <;> first | rfl | cases hrule

namespace Session

section

variable {s s' : Session} {id : TaskId} {name : String} {task : Task} {screen : Screen}
  {place : Nat} {component : Component} {error : Error}

/-! ## What is refused -/

theorem Presses.still (hpresses : s.Presses id name task screen place component) :
    Still id s (s.press id screen place component) := by
  obtain ⟨htask, hactivity, -⟩ := hpresses.isScreen
  exact .screenSet _ htask hactivity hpresses.toPresses.skeleton

/-- Once a component is pressed, a click fails only because of a path or a pattern. -/
theorem Presses.failsAs (hpresses : s.Presses id name task screen place component)
    (hsecure : s.Secure) : FailsAs ofRule (s.click id name).1 := by
  obtain ⟨htask, hactivity, -⟩ := hpresses.isScreen
  have hstill := hpresses.still
  have hpressed := Component.failsAs_press hpresses.clickable
  rw [hpresses.click_eq]
  split
  · exact (Moves.secure hstill.acts.moves hsecure).failsAs_performAll
      (hstill.isScreen ⟨task, screen, htask, hactivity⟩) _
  · next failure hpress => exact .error (ofRule_of_ofPath (hpressed failure hpress))

theorem fillIn_of_error {field : String} {value : Value}
    (hfillIn : s.fillIn id field value = (.error error, s')) : s' = s := by
  unfold fillIn at hfillIn
  dsimp only at hfillIn
  split at hfillIn
  · cases hfillIn
  · exact (Prod.mk.inj hfillIn).2.symm

theorem answer_of_error {value : Value} (hanswer : s.answer id value = (.error error, s')) :
    s' = s := by
  unfold answer at hanswer
  dsimp only at hanswer
  split at hanswer
  · exact (Prod.mk.inj hanswer).2.symm
  · cases hanswer

theorem Secure.click_of_refusal (hsecure : s.Secure)
    (hclick : s.click id name = (.error error, s')) (hrefusal : error.isRefusal = true) :
    s' = s := by
  rcases s.presses_or_refused id name with ⟨task, screen, place, component, hpresses⟩ |
    ⟨failure, hrefused⟩
  · have hrule : error.ofRule = true := hpresses.failsAs hsecure error (by rw [hclick])
    rw [not_isRefusal hrule] at hrefusal
    cases hrefusal
  · rw [hrefused] at hclick
    exact (Prod.mk.inj hclick).2.symm

end

/-- What is refused changes nothing: the task is complete or of another sort, the component is not
shown, holds no value, cannot be clicked or is disabled, and then the whole session is the one
before. -/
theorem refused_unchanged {s : Session} (hdriven : s.Driven) (id : TaskId) :
    (∀ field value error s', s.fillIn id field value = (.error error, s') →
      error.isRefusal = true → s' = s) ∧
    (∀ component error s', s.click id component = (.error error, s') →
      error.isRefusal = true → s' = s) ∧
    (∀ value error s', s.answer id value = (.error error, s') →
      error.isRefusal = true → s' = s) := by
  obtain ⟨document, settings, ownsEvents, start, hstart, hdrives⟩ := hdriven
  have hsecure : s.Secure := hdrives.secure (start_secure hstart)
  refine ⟨?_, ?_, ?_⟩
  · intro field value error s' hfillIn _
    exact fillIn_of_error hfillIn
  · intro component error s' hclick hrefusal
    exact hsecure.click_of_refusal hclick hrefusal
  · intro value error s' hanswer _
    exact answer_of_error hanswer

/-- A document with a form to submit. The reason is asked for only once the form was sent, and only
then can the form be left by the other button. -/
def formDocument : Document where
  repository :=
    { components := [
        ("later", { preconditions := [], validators := [], destination := none,
                    widget := .button "next" none "Later" .null ["unsent"] }),
        ("name", { preconditions := [], validators := ["filled"], destination := some "$.name",
                   widget := .input "Name" false none }),
        ("reason", { preconditions := ["sent"], validators := ["filled"],
                     destination := some "$.reason", widget := .input "Reason" false none }),
        ("send", { preconditions := [], validators := [], destination := some "$.sent",
                   widget := .button "submit" none "Send" (.bool true) [] })]
      validators := [
        ("filled", { rule := .notEquals, message := { template := "Missing.", sort := "error" },
                     passesWhen := true, subjectPath := none, expectedPath := none,
                     expected := .null }),
        ("sent", { rule := .equals, message := { template := "Not sent.", sort := "error" },
                   passesWhen := true, subjectPath := some "$.sent", expectedPath := none,
                   expected := .bool true }),
        ("unsent", { rule := .equals, message := { template := "Sent.", sort := "error" },
                     passesWhen := true, subjectPath := some "$.sent", expectedPath := none,
                     expected := .null })]
      flows := [
        ("main", { tasks := [
                     { name := "form", preconditions := []
                       action := .screen [["name", "reason", "later", "send"].map fun component =>
                         { component, destination := none, preconditions := none }] }],
                   settings := {} })] }
  startingFlow := "main"
  context := .object []
  hash := none

def shownForm : Session :=
  (initial formDocument {} true {}).pull.2

theorem shownForm_driven : shownForm.Driven :=
  Reachable.driven (reachable_carryOut [.pull] (by decide +kernel) rfl (by decide +kernel))

/-- The reason is not shown, the button that leaves the form is disabled, and the form is no remote
call. -/
theorem shownForm_refused :
    shownForm.fillIn ⟨1⟩ "reason" .null = (.error (.notShown "form" "reason"), shownForm) ∧
      shownForm.click ⟨1⟩ "later" = (.error (.disabledComponent "later"), shownForm) ∧
      shownForm.answer ⟨1⟩ .null = (.error (.otherSort "form" "jsonrpc" "screen"), shownForm) := by
  have hreason : (shownForm.fillIn ⟨1⟩ "reason" .null).1 = .error (.notShown "form" "reason") := by
    decide +kernel
  have hlater : (shownForm.click ⟨1⟩ "later").1 = .error (.disabledComponent "later") := by
    decide +kernel
  have hcall : (shownForm.answer ⟨1⟩ .null).1 = .error (.otherSort "form" "jsonrpc" "screen") := by
    decide +kernel
  obtain ⟨hfillIn, hclick, hanswer⟩ := refused_unchanged shownForm_driven ⟨1⟩
  refine ⟨Prod.ext hreason ?_, Prod.ext hlater ?_, Prod.ext hcall ?_⟩
  · exact hfillIn "reason" .null _ _ (Prod.fst_eq_iff.mp hreason) rfl
  · exact hclick "later" _ _ (Prod.fst_eq_iff.mp hlater) rfl
  · exact hanswer .null _ _ (Prod.fst_eq_iff.mp hcall) rfl

section

variable {s r s' : Session} {id : TaskId} {name : String} {error : Error}

/-! ## What a failure leaves behind -/

/-- The screen of a task is recorded as left although it has no result and stays open. -/
structure Unfinished (s : Session) (id : TaskId) (error : Error) (s' : Session) (flow : Flow)
    (entry : Visit) : Prop where
  recording : s.settings.recordHistory = true
  stuck : ∃ task screen, s'.taskAt? id = some task ∧ task.activity = .screen screen ∧
    task.complete = false ∧ screen.result (s'.taskJudge task) = .error error
  visited : s'.visitOf id = .ok (some (flow, entry))
  history : s'.history = s.history.push entry
  events : s'.events = s.events.push (.screenLeft flow.definition entry.screen)

/-- What a click comes to that fails after its component is pressed: nothing but the task is
touched, or its screen is recorded as well. -/
def Falters (s : Session) (id : TaskId) (error : Error) (s' : Session) : Prop :=
  Still id s s' ∨ ∃ flow entry, s.Unfinished id error s' flow entry

theorem Falters.after (hstill : Still id s r) (hfalters : r.Falters id error s') :
    s.Falters id error s' := by
  rcases hfalters with hafter | ⟨flow, entry, hunfinished⟩
  · exact .inl (hstill.trans hafter)
  · right
    refine ⟨flow, entry, ?_, hunfinished.stuck, hunfinished.visited, ?_, ?_⟩
    · rw [← hstill.quiet.settings]
      exact hunfinished.recording
    · rw [hunfinished.history, hstill.history]
    · rw [hunfinished.events, hstill.events]

theorem leaveScreen_falters (hscreen : s.IsScreen id)
    (hleave : s.leaveScreen id = (.error error, s')) : s.Falters id error s' := by
  obtain ⟨task, screen, htask, hactivity⟩ := hscreen
  by_cases hcomplete : task.complete = true
  · rw [leaveScreen_of_complete htask hcomplete] at hleave
    cases hleave
  · have hopen : task.complete = false := Bool.eq_false_iff.mpr hcomplete
    cases hrecord : if s.settings.recordHistory then s.recordHistory id else .ok s with
    | error failure =>
        rw [leaveScreen, task_eq_ok_iff.mpr htask] at hleave
        dsimp only at hleave
        rw [if_neg hcomplete, hrecord] at hleave
        cases hleave
        exact .inl (.refl s id)
    | ok recorded =>
        rw [leaveScreen_eq htask hactivity hopen hrecord] at hleave
        split at hleave
        · next failure hresult =>
            cases hleave
            split_ifs at hrecord with hrecording
            · cases recorded_of_recordHistory hrecord with
              | nothing => exact .inl (.refl s id)
              | @visit flow entry hvisit =>
                  right
                  exact ⟨flow, entry, hrecording, ⟨task, screen, htask, hactivity, hopen, hresult⟩,
                    hvisit, rfl, rfl⟩
            · cases hrecord
              exact .inl (.refl s id)
        · cases hleave

theorem submit_falters (hscreen : s.IsScreen id) (hsubmit : s.submit id = (.error error, s')) :
    s.Falters id error s' := by
  have hjudged := judgeScreen_still hscreen
  unfold submit at hsubmit
  split at hsubmit
  · next judged hjudge =>
      rw [hjudge] at hjudged
      exact (leaveScreen_falters (hjudged.isScreen hscreen) hsubmit).after hjudged
  · cases hsubmit
  · next judged hjudge =>
      rw [hjudge] at hjudged
      cases hsubmit
      exact .inl hjudged

/-- Going back does not fail. -/
theorem performAction_falters (hscreen : s.IsScreen id) {action : String}
    (hperform : s.performAction id action = (.error error, s')) : s.Falters id error s' := by
  unfold performAction at hperform
  split_ifs at hperform
  · exact submit_falters hscreen hperform
  · exact leaveScreen_falters hscreen hperform
  · obtain ⟨task, -, htask, -⟩ := hscreen
    rcases goBack_cases htask with ⟨entry, target, -, -, hback⟩ | ⟨-, hback⟩
    all_goals
      rw [hback] at hperform
      cases hperform
  · cases hperform

theorem performAll_falters {effects : List ClickEffect} (hscreen : s.IsScreen id)
    (heffects : effects = [] ∨ (∃ action, effects = [.action action]) ∨
      ∃ patch action, effects = [.update patch, .action action])
    (hperform : s.performAll id effects = (.error error, s')) : s.Falters id error s' := by
  rcases heffects with rfl | ⟨action, rfl⟩ | ⟨patch, action, rfl⟩
  · cases hperform
  · rw [performAll_action] at hperform
    exact performAction_falters hscreen hperform
  · obtain ⟨task, screen, htask, hactivity⟩ := hscreen
    have hpatched := Still.patched patch htask (Task.takesInput_of_screen hactivity)
    rw [performAll, perform, scopeOf_eq_of_taskAt? htask] at hperform
    dsimp only at hperform
    rw [performAll_action] at hperform
    have hscreen := hpatched.isScreen ⟨task, screen, htask, hactivity⟩
    exact (performAction_falters hscreen hperform).after hpatched

theorem click_falters (hclick : s.click id name = (.error error, s')) : s.Falters id error s' := by
  rcases s.presses_or_refused id name with ⟨task, screen, place, component, hpresses⟩ |
    ⟨failure, hrefused⟩
  · have hpressed := hpresses.still
    obtain ⟨htask, hactivity, -⟩ := hpresses.isScreen
    rw [hpresses.click_eq] at hclick
    split at hclick
    · next effects hpress =>
        have hscreen := hpressed.isScreen ⟨task, screen, htask, hactivity⟩
        have heffects := Component.press_effects (Prod.fst_eq_iff.mp hpress)
        exact (performAll_falters hscreen heffects hclick).after hpressed
    · cases hclick
      exact .inl hpressed
  · rw [hrefused] at hclick
    cases hclick
    exact .inl (.refl s id)

/-- A click that fails leaves no trace in the history and among the events, unless it was to leave a
screen that has no result: such a screen is recorded once more and stays open. -/
theorem traceless_or_unfinished (hclick : s.click id name = (.error error, s')) :
    (s'.history = s.history ∧ s'.events = s.events) ∨
      ∃ flow entry, s.Unfinished id error s' flow entry := by
  rcases click_falters hclick with hstill | hunfinished
  · exact .inl ⟨hstill.history, hstill.events⟩
  · exact .inr hunfinished

end

/-- A document with a screen whose value is to be put into a list that is not there. -/
def unplacedDocument : Document where
  repository :=
    { components := [
        actionButton "next",
        ("row", { preconditions := [], validators := [], destination := some "$.rows[0]",
                  widget := .input "Row" false none })]
      validators := []
      flows := [
        ("main", { tasks := [
                     { name := "ask", preconditions := []
                       action := .screen [["row", "next"].map fun component =>
                         { component, destination := none, preconditions := none }] }],
                   settings := {} })] }
  startingFlow := "main"
  context := .object []
  hash := none

def unplaced : Session :=
  (initial unplacedDocument {} true {}).pull.2

theorem unplaced_click :
    unplaced.click ⟨1⟩ "next" =
      (.error (.cannotWrite "$.rows[0]" (.indexInto "null")), (unplaced.click ⟨1⟩ "next").2) :=
  Prod.fst_eq_iff.mp (by decide +kernel)

theorem unplaced_history : (unplaced.click ⟨1⟩ "next").2.history ≠ unplaced.history := by
  decide +kernel

/-- The screen has no result, so it is recorded and stays open. -/
theorem unplaced_unfinished :
    ∃ flow entry, unplaced.Unfinished ⟨1⟩ (.cannotWrite "$.rows[0]" (.indexInto "null"))
      (unplaced.click ⟨1⟩ "next").2 flow entry := by
  rcases traceless_or_unfinished unplaced_click with ⟨hsame, -⟩ | hunfinished
  · exact absurd hsame unplaced_history
  · exact hunfinished

/-- A click that fails may leave a trace: the attempt to leave that screen is recorded. -/
theorem failed_not_traceless :
    ¬∀ (s s' : Session) (id : TaskId) (name : String) (error : Error), s.Driven →
      s.click id name = (.error error, s') → s'.history = s.history ∧ s'.events = s.events := by
  intro htraceless
  have hdriven : unplaced.Driven :=
    Reachable.driven (reachable_carryOut [.pull] (by decide +kernel) rfl (by decide +kernel))
  obtain ⟨hhistory, -⟩ := htraceless _ _ _ _ _ hdriven unplaced_click
  exact unplaced_history hhistory

end Session

end Workflow
