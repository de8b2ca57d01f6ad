import Workflow.Proofs.Screen.Validation
import Workflow.Proofs.Session.Clicks

/-!
# Submitting a screen

A button that submits is pressed first: it takes its value, and its value goes to the state if the
button has a destination.  Then all components that are shown are validated, in that state and with
the value that the button has by then.  If all of them are valid the screen is completed, and
otherwise it keeps the messages of those that are not and nothing else happens,
`Session.Blocked`.
-/

namespace Workflow

namespace Session

/-- A screen was not completed: some components that are shown are not valid, and the screen has the
messages of these and of no others.  Apart from the screen and its scope nothing has changed. -/
structure Blocked (s : Session) (id : TaskId) (judge : Judge) (components : List Component)
    (s' : Session) : Prop extends Spares id s s' where
  history : s'.history = s.history
  events : s'.events = s.events
  incomplete : ∃ task, s'.taskAt? id = some task ∧ task.complete = false
  errors : ∃ found, s'.errors id = .ok found ∧ ∀ name messages, (name, messages) ∈ found ↔
    ∃ component ∈ components, component.name = name ∧ component.isShown judge = .ok true ∧
      ¬component.IsValid judge ∧ component.complaints judge = .ok messages

/-- A screen was completed, and no messages are left. -/
structure Submitted (id : TaskId) (s' : Session) : Prop where
  complete : ∃ task, s'.taskAt? id = some task ∧ task.complete = true
  errors : s'.errors id = .ok []

section

variable {s r s' : Session} {id : TaskId} {name : String} {task : Task} {screen : Screen}
  {place : Nat} {component : Component}

theorem errors_eq (htask : s.taskAt? id = some task) (hactivity : task.activity = .screen screen) :
    s.errors id = .ok screen.errors := by
  rw [errors, screenTask_eq_ok_iff.mpr ⟨htask, hactivity⟩]
  rfl

theorem taskAt?_setScreen_self (htask : s.taskAt? id = some task) (screen : Screen) :
    (s.setScreen id screen).taskAt? id = some { task with activity := .screen screen } := by
  rw [taskAt?_setScreen, if_pos rfl, htask, Option.map_some]

/-- A screen that is left without a failure is complete, and its state is the same. -/
theorem Wired.leaveScreen_of_ok (hwired : s.Wired) (htask : s.taskAt? id = some task)
    (hactivity : task.activity = .screen screen) (hopen : task.complete = false)
    (hleave : s.leaveScreen id = (.ok (), s')) :
    s'.taskAt? id = some { task with complete := true } ∧ s'.stateOf task = s.stateOf task := by
  obtain ⟨recorded, hrecord, hrecorded⟩ := hwired.exists_recorded htask
  rw [leaveScreen_eq htask hactivity hopen hrecord] at hleave
  split at hleave
  · cases hleave
  · next result hresult =>
      cases hleave
      constructor
      · rw [taskAt?_complete, if_pos rfl, taskAt?_modifyScope, hrecorded.taskAt?, htask,
          Option.map_some]
      · have hscope : recorded.scopeAt? task.scope = s.scopeAt? task.scope := by
          cases hrecorded <;> rfl
        rw [stateOf, scope_eq, scopeAt?_complete, scopeAt?_modifyScope_self, hscope, stateOf,
          scope_eq]
        cases s.scopeAt? task.scope <;> rfl

/-- What submitting an open screen comes to, if it does not fail. -/
theorem Sound.submit_cases (hsound : s.Sound) (htask : s.taskAt? id = some task)
    (hactivity : task.activity = .screen screen) (hopen : task.complete = false)
    (hdistinct : (screen.components.map Component.name).Nodup)
    (hsubmit : s.submit id = (.ok (), s')) :
    s'.stateOf task = s.stateOf task ∧
      (Screen.AllValid (s.taskJudge task) screen.components → Submitted id s') ∧
      (¬Screen.AllValid (s.taskJudge task) screen.components →
        Blocked s id (s.taskJudge task) screen.components s') := by
  cases hvalidate : screen.validate (s.taskJudge task) with
  | mk outcome validated =>
      have hkept : validated.skeleton = screen.skeleton := by
        have hsame := screen.skeleton_validate (s.taskJudge task)
        rwa [hvalidate] at hsame
      have hjudge : s.judgeScreen id = (outcome, s.setScreen id validated) := by
        rw [judgeScreen, screenTask_eq_ok_iff.mpr ⟨htask, hactivity⟩]
        dsimp only
        rw [hvalidate]
      have hjudged := taskAt?_setScreen_self htask validated
      rw [submit, hjudge] at hsubmit
      cases outcome with
      | error error => cases hsubmit
      | ok valid =>
          have hvalid := Screen.valid_iff hvalidate
          by_cases hall : valid = true
          · subst hall
            have hact : Act id s (s.setScreen id validated) :=
              .screenSet validated htask hactivity hkept
            have hwired := ((Move.act hact).sound hsound).wired
            obtain ⟨hcomplete, hstate⟩ := hwired.leaveScreen_of_ok hjudged rfl hopen hsubmit
            refine ⟨hstate, fun _ => ?_, fun hinvalid => absurd (hvalid.mp rfl) hinvalid⟩
            refine ⟨⟨_, hcomplete, rfl⟩, ?_⟩
            rw [errors_eq hcomplete rfl, Screen.errors_of_valid hvalidate]
          · rw [Bool.eq_false_iff.mpr hall] at hsubmit
            cases hsubmit
            refine ⟨rfl, fun hvalidated => absurd (hvalid.mpr hvalidated) hall, fun _ => ?_⟩
            exact
              { Spares.setScreen htask hactivity hkept with
                history := rfl
                events := rfl
                incomplete := ⟨_, hjudged, hopen⟩
                errors := ⟨validated.errors, errors_eq hjudged rfl, fun name messages =>
                  Screen.mem_errors_validate_iff hdistinct hvalidate⟩ }

/-- A button that submits is pressed, and then the screen is submitted. -/
theorem Presses.submits (hpresses : s.Presses id name task screen place component)
    (hwired : s.Wired) {text : String} {style : Option String} {value : Value}
    {disabling : List String}
    (hbutton : component.widget = .button "submit" style text value disabling)
    (hclick : s.click id name = (.ok (), s')) :
    ∃ r, Still id s r ∧ Spares id s r ∧
      r.taskAt? id =
        some { task with activity := .screen (screen.replace place component.press.2) } ∧
      r.stateOf task = component.stateAfterPress (s.stateOf task) ∧ r.submit id = (.ok (), s') := by
  obtain ⟨htask, hactivity, -⟩ := hpresses.isScreen
  have hstill := hpresses.still
  have hpressed : (s.press id screen place component).taskAt? id =
      some { task with activity := .screen (screen.replace place component.press.2) } :=
    taskAt?_setScreen_self htask _
  have hspares : Spares id s (s.press id screen place component) :=
    .setScreen htask hactivity hpresses.toPresses.skeleton
  have hperform (r : Session) : r.performAll id [.action "submit"] = r.submit id := by
    rw [performAll_action, performAction, if_pos rfl]
  rw [hpresses.click_eq] at hclick
  cases hpress : component.press.1 with
  | error error =>
      rw [hpress] at hclick
      cases hclick
  | ok effects =>
      rw [hpress] at hclick
      dsimp only at hclick
      rcases component.press_button hbutton hpress with ⟨rfl, hstate⟩ | ⟨patch, rfl, hstate⟩
      · rw [hperform] at hclick
        exact ⟨_, hstill, hspares, hpressed, (hstate _).symm, hclick⟩
      · rw [performAll, perform, scopeOf_eq_of_taskAt? hpressed] at hclick
        dsimp only at hclick
        rw [hperform] at hclick
        have hinput : Task.takesInput
            { task with activity := .screen (screen.replace place component.press.2) } = true := rfl
        refine ⟨_, hstill.trans (.patched patch hpressed hinput),
          hspares.trans (.modifyScope hpressed hinput _), hpressed, ?_, hclick⟩
        obtain ⟨scope, hat⟩ := hwired.exists_scopeAt? htask
        rw [scopeOf_eq_of_taskAt? htask] at hat
        have hmerged := scopeAt?_modifyScope_self (s.press id screen place component) task.scope
          fun scope => (scope.mergeResult patch).mergeState patch
        have hsame : (s.press id screen place component).scopeAt? task.scope = some scope := hat
        rw [hsame, Option.map_some] at hmerged
        rw [stateOf, scope_eq_of_scopeAt? hmerged, hstate, stateOf, scope_eq_of_scopeAt? hat]
        rfl

end

/-- A click on a button that submits, if it does not fail, completes the screen just if every
component that is shown is valid, in the state and with the values after the press.  Otherwise the
screen stays open with the messages of the validators that do not pass, and nothing else has
changed. -/
theorem submitted_or_blocked {s s' : Session} (hdriven : s.Driven) {id : TaskId} {task : Task}
    {screen : Screen} {component : Component} {text : String} {style : Option String}
    {value : Value} {disabling : List String} (htask : s.taskAt? id = some task)
    (hactivity : task.activity = .screen screen)
    (hdistinct : (screen.components.map Component.name).Nodup)
    (hmem : component ∈ screen.components)
    (hbutton : component.widget = .button "submit" style text value disabling)
    (hclick : s.click id component.name = (.ok (), s')) :
    let judge := s.judge (component.stateAfterPress (s.stateOf task))
    let components := screen.pressed component.name
    s'.stateOf task = judge.state ∧
      (Screen.AllValid judge components → Submitted id s') ∧
      (¬Screen.AllValid judge components → Blocked s id judge components s') := by
  have hsound := hdriven.accounted.1.sound
  rcases s.presses_or_refused id component.name with ⟨found, shown, place, pressed, hpresses⟩ |
    ⟨failure, hrefused⟩
  · obtain ⟨hfound, hshown, hopen⟩ := hpresses.isScreen
    rw [htask] at hfound
    cases hfound
    rw [hactivity] at hshown
    cases hshown
    obtain rfl := Screen.eq_of_find hdistinct hmem hpresses.found
    obtain ⟨r, hstill, hspares, hpressed, hstate, hsubmit⟩ :=
      hpresses.submits hsound.wired hbutton hclick
    rw [Screen.replace_press_eq hdistinct (Screen.getElem?_of_find hpresses.found)] at hpressed
    have hjudge : r.taskJudge { task with activity := .screen ⟨screen.pressed pressed.name⟩ } =
        s.judge (pressed.stateAfterPress (s.stateOf task)) := by
      rw [← hstate, judge, ← hspares.repository, ← hspares.settings]
      rfl
    have hcases := (Moves.sound hstill.acts.moves hsound).submit_cases hpressed rfl hopen
      (by rwa [Screen.names_pressed]) hsubmit
    rw [hjudge] at hcases
    obtain ⟨hkept, hsubmitted, hblocked⟩ := hcases
    refine ⟨hkept.trans hstate, hsubmitted, fun hinvalid => ?_⟩
    have hblocked := hblocked hinvalid
    exact
      { hspares.trans hblocked.toSpares with
        history := hblocked.history.trans hstill.history
        events := hblocked.events.trans hstill.events
        incomplete := hblocked.incomplete
        errors := hblocked.errors }
  · rw [hrefused] at hclick
    cases hclick

def sendButton (held : Value) : Component where
  name := "send"
  widget := .button "submit" none "Send" (.bool true) []
  value := some held
  destination := some "$.sent"
  preconditions := []
  validators := []
  errors := []

def formOf (s : Session) : Task × Screen :=
  (s.screenTask ⟨1⟩).toOption.getD default

/-- The session of `formDocument` in which the form was sent once, and then filled in. -/
def filledForm : Session :=
  let sent := (shownForm.click ⟨1⟩ "send").2
  ((sent.fillIn ⟨1⟩ "name" (.string "Ada")).2.fillIn ⟨1⟩ "reason" (.string "None")).2

/-- The reason is asked for in the state after the press, in which the form has been sent; then the
form is filled in and completed. -/
theorem form_submitted :
    (shownForm.click ⟨1⟩ "send").2.errors ⟨1⟩ =
        .ok [("name", ["Missing."]), ("reason", ["Missing."])] ∧
      Blocked shownForm ⟨1⟩ (shownForm.judge (.object [("sent", .bool true)]))
        ((formOf shownForm).2.pressed "send") (shownForm.click ⟨1⟩ "send").2 ∧
      Submitted ⟨1⟩ (filledForm.click ⟨1⟩ "send").2 := by
  have hfilled : filledForm.Driven :=
    Reachable.driven (reachable_carryOut
      [.pull, .click ⟨1⟩ "send", .fillIn ⟨1⟩ "name" (.string "Ada"),
        .fillIn ⟨1⟩ "reason" (.string "None")] (by decide +kernel) rfl (by decide +kernel))
  have hscreen : shownForm.screenTask ⟨1⟩ =
      .ok ((formOf shownForm).1, (formOf shownForm).2) := by decide +kernel
  have hscreen' : filledForm.screenTask ⟨1⟩ =
      .ok ((formOf filledForm).1, (formOf filledForm).2) := by decide +kernel
  obtain ⟨htask, hactivity⟩ := screenTask_eq_ok_iff.mp hscreen
  obtain ⟨htask', hactivity'⟩ := screenTask_eq_ok_iff.mp hscreen'
  have hclick : shownForm.click ⟨1⟩ "send" = (.ok (), (shownForm.click ⟨1⟩ "send").2) :=
    Prod.fst_eq_iff.mp (by decide +kernel)
  have hclick' : filledForm.click ⟨1⟩ "send" = (.ok (), (filledForm.click ⟨1⟩ "send").2) :=
    Prod.fst_eq_iff.mp (by decide +kernel)
  have hsend : sendButton .null ∈ (formOf shownForm).2.components := by decide +kernel
  have hsend' : sendButton (.bool true) ∈ (formOf filledForm).2.components := by decide +kernel
  have hstate : (sendButton .null).stateAfterPress (shownForm.stateOf (formOf shownForm).1) =
      .object [("sent", .bool true)] := by decide +kernel
  obtain ⟨-, -, hblocked⟩ := submitted_or_blocked shownForm_driven htask hactivity
    (by decide +kernel) hsend rfl hclick
  obtain ⟨-, hsubmitted, -⟩ := submitted_or_blocked hfilled htask' hactivity'
    (by decide +kernel) hsend' rfl hclick'
  rw [hstate] at hblocked
  exact ⟨by decide +kernel, hblocked (by decide +kernel), hsubmitted (by decide +kernel)⟩

end Session

end Workflow
