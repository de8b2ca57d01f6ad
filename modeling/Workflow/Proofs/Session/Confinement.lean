import Workflow.Proofs.Screen.Shown
import Workflow.Proofs.Session.Abandoned
import Workflow.Proofs.Session.Publishing

/-!
# Input stays with its task

Filling in a screen, answering a remote call, and clicking a component that does not ask to go back,
succeed or not, touch the task they name and its scope, and add at most one record,
`Session.Confined`.  The flows being run, the tasks that flows have open and the scopes that flows
work in stay as they are, through any number of such inputs on any tasks, `Session.Unheard`: a flow
learns of an input at a later pull.
-/

namespace Workflow

def Component.asksBack (component : Component) : Bool :=
  match component.widget with
  | .button action .. => action == "back"
  | _ => false

/-- The action that a press asks for is that of the button. -/
theorem Component.button_of_press {component pressed : Component} {effects : List ClickEffect}
    {action : String} (hpress : component.press = (.ok effects, pressed))
    (haction : .action action ∈ effects) :
    ∃ style text value disabling, component.widget = .button action style text value disabling := by
  unfold press at hpress
  split at hpress
  · cases hpress
    cases haction
  · next own style text value disabling hwidget =>
      have heffects := congrArg Prod.fst hpress
      dsimp only at heffects
      have hown : action = own := by
        unfold buttonEffects at heffects
        split at heffects
        · split_ifs at heffects
          · cases heffects
            simpa using haction
          · obtain ⟨patch, -, rfl⟩ := exists_of_map_eq_ok heffects
            simpa using haction
        · cases heffects
          simpa using haction
      exact ⟨style, text, value, disabling, hown ▸ hwidget⟩
  · cases hpress

theorem Component.action_ne_back {component clicked : Component} {judge : Judge}
    {effects : List ClickEffect} (hclick : component.click judge = (.ok effects, clicked))
    (hstays : component.asksBack = false) {action : String} (haction : .action action ∈ effects) :
    action ≠ "back" := by
  unfold Component.click at hclick
  split_ifs at hclick
  · split at hclick
    · cases hclick
    · obtain ⟨_, _, _, _, hwidget⟩ := button_of_press hclick haction
      simpa [asksBack, hwidget] using hstays
    · cases hclick
  · cases hclick

namespace Session

def asksBack (s : Session) (id : TaskId) (component : String) : Bool :=
  match s.screenTask id with
  | .ok (_, screen) => (screen.named? component).any Component.asksBack
  | .error _ => false

/-- What the program around a session does with a task, short of asking to go back. -/
inductive Input (s : Session) (id : TaskId) : Session → Prop
  | filledIn (field : String) (value : Value) : Input s id (s.fillIn id field value).2
  | clicked (component : String) (hstays : s.asksBack id component = false) :
      Input s id (s.click id component).2
  | answered (value : Value) : Input s id (s.answer id value).2

/-- Any number of inputs, one after another, on whatever tasks. -/
def Inputs : Session → Session → Prop :=
  Relation.ReflTransGen fun s s' => ∃ id, Input s id s'

/-- Nothing differs but the task `id`, which is no flow, its scope, the history and the events. -/
structure Spares (id : TaskId) (s s' : Session) : Prop where
  repository : s'.repository = s.repository
  root : s'.root = s.root
  active : s'.active = s.active
  settings : s'.settings = s.settings
  redirectedTo : s'.redirectedTo = s.redirectedTo
  tasks : ∀ other, other ≠ id → s'.taskAt? other = s.taskAt? other
  own : (s'.taskAt? id).map Task.skeleton = (s.taskAt? id).map Task.skeleton
  flows : ∀ other, s'.flowAt? other = s.flowAt? other
  scopes : ∀ scope,
    (∀ task, s.taskAt? id = some task → task.takesInput = true → task.scope ≠ scope) →
      s'.scopeAt? scope = s.scopeAt? scope

/-- Nothing differs but the task `id` and its scope, and that the screen `left` is recorded, if
there is one. -/
structure Confined (id : TaskId) (left : Option (Flow × Visit)) (s s' : Session) : Prop
    extends Spares id s s' where
  history : s'.history.toList = (left.map Prod.snd).toList ++ s.history.toList
  events : s'.events.toList =
    s.events.toList ++ (left.map fun (flow, entry) =>
      Event.screenLeft flow.definition entry.screen).toList

/-- No flow can tell the two sessions apart: the flows, those being run, and the scopes that flows
work in are the same. -/
structure Unheard (s s' : Session) : Prop where
  active : s'.active = s.active
  flows : ∀ id, s'.flowAt? id = s.flowAt? id
  scopeOf : ∀ id, s'.scopeOf id = s.scopeOf id
  scopes : ∀ {id flow}, s.flowAt? id = some flow → ∀ scope,
    s.scopeOf id = scope ∨ flow.pass = some scope → s'.scopeAt? scope = s.scopeAt? scope

section

variable {s r s' : Session} {id : TaskId} {left : Option (Flow × Visit)} {task : Task}

/-! ## One change after another -/

namespace Spares

theorem refl (s : Session) (id : TaskId) : Spares id s s where
  repository := rfl
  root := rfl
  active := rfl
  settings := rfl
  redirectedTo := rfl
  tasks := fun _ _ => rfl
  own := rfl
  flows := fun _ => rfl
  scopes := fun _ _ => rfl

theorem trans (hfirst : Spares id s r) (hsecond : Spares id r s') : Spares id s s' where
  repository := hsecond.repository.trans hfirst.repository
  root := hsecond.root.trans hfirst.root
  active := hsecond.active.trans hfirst.active
  settings := hsecond.settings.trans hfirst.settings
  redirectedTo := hsecond.redirectedTo.trans hfirst.redirectedTo
  tasks := by
    intro other hother
    exact (hsecond.tasks other hother).trans (hfirst.tasks other hother)
  own := hsecond.own.trans hfirst.own
  flows := by
    intro other
    exact (hsecond.flows other).trans (hfirst.flows other)
  scopes := by
    intro scope hother
    refine (hsecond.scopes scope ?_).trans (hfirst.scopes scope hother)
    intro task' htask' hinput
    have hown := hfirst.own
    rw [htask'] at hown
    obtain ⟨task, htask, hskeleton⟩ := Option.map_eq_some_iff.mp hown.symm
    rw [← Task.scope_of_skeleton hskeleton]
    exact hother task htask ((Task.takesInput_of_skeleton hskeleton).trans hinput)

theorem modifyScope (htask : s.taskAt? id = some task) (hinput : task.takesInput = true)
    (change : Scope → Scope) : Spares id s (s.modifyScope task.scope change) where
  repository := rfl
  root := rfl
  active := rfl
  settings := rfl
  redirectedTo := rfl
  tasks := fun _ _ => rfl
  own := rfl
  flows := fun _ => rfl
  scopes := by
    intro scope hother
    exact scopeAt?_modifyScope_of_ne s change (hother task htask hinput)

theorem modifyTask (htask : s.taskAt? id = some task) (hinput : task.takesInput = true)
    {change : Task → Task} (hkept : (change task).skeleton = task.skeleton) :
    Spares id s (s.modifyTask id change) where
  repository := rfl
  root := rfl
  active := rfl
  settings := rfl
  redirectedTo := rfl
  tasks := by
    intro other hother
    rw [taskAt?_modifyTask, if_neg hother.symm]
  own := by
    rw [taskAt?_modifyTask, if_pos rfl, htask]
    exact congrArg some hkept
  flows := by
    intro other
    have hflow : task.flow? = none := by
      simpa [Task.isFlow] using Task.isFlow_of_takesInput hinput
    have hflow' : (change task).flow? = none := by
      simpa [Task.isFlow] using Task.isFlow_of_takesInput
        ((Task.takesInput_of_skeleton hkept).trans hinput)
    by_cases hother : id = other
    · subst hother
      rw [flowAt?, flowAt?, taskAt?_modifyTask, if_pos rfl, htask]
      exact hflow'.trans hflow.symm
    · rw [flowAt?, flowAt?, taskAt?_modifyTask, if_neg hother]
  scopes := fun _ _ => rfl

theorem setScreen {old new : Screen} (htask : s.taskAt? id = some task)
    (hactivity : task.activity = .screen old) (hkept : new.skeleton = old.skeleton) :
    Spares id s (s.setScreen id new) := by
  refine modifyTask htask (Task.takesInput_of_screen hactivity) ?_
  simp [Task.skeleton, hactivity, Activity.skeleton, hkept]

/-- A result is merged into the scope of the task, and the task is complete. -/
theorem finish (htask : s.taskAt? id = some task) (hinput : task.takesInput = true)
    (result : Value) :
    Spares id s ((s.modifyScope task.scope (·.mergeResult result)).complete id) := by
  have hmerged : (s.modifyScope task.scope (·.mergeResult result)).taskAt? id = some task := htask
  have hkept : ({ task with complete := true } : Task).skeleton = task.skeleton := rfl
  exact (modifyScope htask hinput _).trans (modifyTask hmerged hinput hkept)

theorem scopeOf_eq (hspares : Spares id s s') (other : TaskId) :
    s'.scopeOf other = s.scopeOf other := by
  have hscope : (s'.taskAt? other).map Task.scope = (s.taskAt? other).map Task.scope := by
    by_cases hother : other = id
    · subst hother
      have hown := congrArg (Option.map Task.scope) hspares.own
      rw [Option.map_map, Option.map_map] at hown
      exact hown
    · rw [hspares.tasks other hother]
  exact congrArg (Option.getD · default) hscope

/-- The trees that a flow works in are not those of a task that takes input. -/
theorem unheard (hspares : Spares id s s') (hwired : s.Wired) : Unheard s s' where
  active := hspares.active
  flows := hspares.flows
  scopeOf := hspares.scopeOf_eq
  scopes := by
    intro owner flow hflow scope hworks
    apply hspares.scopes
    intro task htask hinput hscope
    rcases hworks with hown | hpass
    · obtain ⟨outer, houter, hruns⟩ := flowAt?_eq_some_iff.mp hflow
      rw [scopeOf_eq_of_taskAt? houter] at hown
      cases hwired.eq_of_scope_eq htask houter (hscope.trans hown.symm)
      rw [htask] at houter
      cases houter
      have hisFlow := Task.isFlow_of_takesInput hinput
      rw [Task.isFlow, hruns] at hisFlow
      cases hisFlow
    · exact hwired.pass_ne hflow hpass htask hscope.symm

end Spares

namespace Confined

theorem of_spares (hspares : Spares id s s') (hhistory : s'.history = s.history)
    (hevents : s'.events = s.events) : Confined id none s s' where
  toSpares := hspares
  history := by simp [hhistory]
  events := by simp [hevents]

theorem after (hbefore : Confined id none s r) (hafter : Confined id left r s') :
    Confined id left s s' where
  toSpares := hbefore.toSpares.trans hafter.toSpares
  history := by simp [hafter.history, hbefore.history]
  events := by simp [hafter.events, hbefore.events]

theorem before (hbefore : Confined id left s r) (hafter : Confined id none r s') :
    Confined id left s s' where
  toSpares := hbefore.toSpares.trans hafter.toSpares
  history := by simp [hafter.history, hbefore.history]
  events := by simp [hafter.events, hbefore.events]

end Confined

theorem Recorded.confined (hrecorded : Recorded s id s') (hvalid : s.history.Valid) :
    ∃ left, Confined id left s s' := by
  cases hrecorded with
  | nothing => exact ⟨none, .of_spares (.refl s id) rfl rfl⟩
  | @visit flow entry =>
      refine ⟨some (flow, entry), { Spares.refl s id with history := ?_, events := ?_ }⟩
      · exact Cursor.toList_push hvalid entry
      · simp [remember, emit]

/-! ## Inputs -/

theorem fillIn_confined (s : Session) (id : TaskId) (field : String) (value : Value) :
    Confined id none s (s.fillIn id field value).2 := by
  rcases fillIn_cases s id field value with hsame | ⟨task, old, new, htask, hactivity, hkept, hset⟩
  · rw [hsame]
    exact .of_spares (.refl s id) rfl rfl
  · rw [hset]
    exact .of_spares (.setScreen htask hactivity hkept) rfl rfl

theorem answer_confined (s : Session) (id : TaskId) (value : Value) :
    Confined id none s (s.answer id value).2 := by
  rcases answer_cases s id value with hsame | ⟨task, call, patch, htask, hcall, -, hanswer⟩
  · rw [hsame]
    exact .of_spares (.refl s id) rfl rfl
  · rw [hanswer]
    exact .of_spares (.finish htask (Task.takesInput_of_remoteCall hcall) patch) rfl rfl

/-- A screen that is left is recorded at most once. -/
theorem leaveScreen_confined (hscreen : s.IsScreen id) (hvalid : s.history.Valid) :
    ∃ left, Confined id left s (s.leaveScreen id).2 := by
  obtain ⟨task, screen, htask, hactivity⟩ := hscreen
  obtain ⟨recorded, hrecorded, hleft⟩ := leaveScreen_cases htask
  obtain ⟨left, hconfined⟩ := hrecorded.confined hvalid
  refine ⟨left, ?_⟩
  rcases hleft with hleft | ⟨_, result, -, -, hleft⟩
  · rw [hleft]
    exact hconfined
  · rw [hleft]
    have htask' : recorded.taskAt? id = some task := (hrecorded.taskAt? id).trans htask
    exact hconfined.before
      (.of_spares (.finish htask' (Task.takesInput_of_screen hactivity) result) rfl rfl)

theorem judgeScreen_confined (hscreen : s.IsScreen id) :
    Confined id none s (s.judgeScreen id).2 := by
  obtain ⟨task, screen, hfound, htask, hactivity⟩ := screenTask_of_isScreen hscreen
  simp only [judgeScreen, hfound]
  exact .of_spares (.setScreen htask hactivity (screen.skeleton_validate _)) rfl rfl

theorem submit_confined (hscreen : s.IsScreen id) (hvalid : s.history.Valid) :
    ∃ left, Confined id left s (s.submit id).2 := by
  have hjudged := judgeScreen_confined hscreen
  have hstill := judgeScreen_still hscreen
  unfold submit
  split
  · next judged hjudge =>
      rw [hjudge] at hjudged hstill
      have hvalid' : judged.history.Valid := hstill.history.symm ▸ hvalid
      obtain ⟨left, hleft⟩ := leaveScreen_confined (hstill.isScreen hscreen) hvalid'
      exact ⟨left, hjudged.after hleft⟩
  all_goals
    next judged hjudge =>
      rw [hjudge] at hjudged
      exact ⟨none, hjudged⟩

theorem performAction_confined (hscreen : s.IsScreen id) (hvalid : s.history.Valid)
    {action : String} (hstays : action ≠ "back") :
    ∃ left, Confined id left s (s.performAction id action).2 := by
  unfold performAction
  split_ifs
  · exact submit_confined hscreen hvalid
  · exact leaveScreen_confined hscreen hvalid
  · exact ⟨none, .of_spares (.refl s id) rfl rfl⟩

theorem performAll_confined {effects : List ClickEffect} (hscreen : s.IsScreen id)
    (hvalid : s.history.Valid)
    (heffects : effects = [] ∨ (∃ action, effects = [.action action]) ∨
      ∃ patch action, effects = [.update patch, .action action])
    (hstays : ∀ action, .action action ∈ effects → action ≠ "back") :
    ∃ left, Confined id left s (s.performAll id effects).2 := by
  rcases heffects with rfl | ⟨action, rfl⟩ | ⟨patch, action, rfl⟩
  · exact ⟨none, .of_spares (.refl s id) rfl rfl⟩
  · rw [performAll_action]
    exact performAction_confined hscreen hvalid (hstays action (by simp))
  · obtain ⟨task, screen, htask, hactivity⟩ := hscreen
    have hpatched : Confined id none s (s.modifyScope task.scope fun scope =>
        (scope.mergeResult patch).mergeState patch) :=
      .of_spares (.modifyScope htask (Task.takesInput_of_screen hactivity) _) rfl rfl
    rw [performAll, perform, scopeOf_eq_of_taskAt? htask]
    dsimp only
    rw [performAll_action]
    obtain ⟨left, hleft⟩ := performAction_confined (s := s.modifyScope task.scope fun scope =>
        (scope.mergeResult patch).mergeState patch) ⟨task, screen, htask, hactivity⟩ hvalid
      (hstays action (by simp))
    exact ⟨left, hpatched.after hleft⟩

theorem click_confined (hvalid : s.history.Valid) {component : String}
    (hstays : s.asksBack id component = false) :
    ∃ left, Confined id left s (s.click id component).2 := by
  rcases click_cases s id component with hsame | ⟨task, screen, changed, htask, hactivity, hkept,
    hset⟩
  · rw [hsame]
    exact ⟨none, .of_spares (.refl s id) rfl rfl⟩
  · have hchanged : Confined id none s (s.setScreen id changed) :=
      .of_spares (.setScreen htask hactivity hkept) rfl rfl
    rcases hset with hset | ⟨place, pressed, clicked, effects, hfind, hclick, hset⟩
    · rw [hset]
      exact ⟨none, hchanged⟩
    · rw [hset]
      have hscreen := (Still.screenSet changed htask hactivity hkept).isScreen
        ⟨task, screen, htask, hactivity⟩
      have hpressed : pressed.asksBack = false := by
        simpa only [asksBack, screenTask_eq_ok_iff.mpr ⟨htask, hactivity⟩,
          Screen.named?_of_find hfind, Option.any_some] using hstays
      obtain ⟨left, hleft⟩ := performAll_confined hscreen hvalid (Component.click_effects hclick)
        fun action haction => Component.action_ne_back hclick hpressed haction
      exact ⟨left, hchanged.after hleft⟩

theorem Input.confined (hinput : Input s id s') (hvalid : s.history.Valid) :
    ∃ left, Confined id left s s' := by
  cases hinput with
  | filledIn field value => exact ⟨none, fillIn_confined s id field value⟩
  | clicked component hstays => exact click_confined hvalid hstays
  | answered value => exact ⟨none, answer_confined s id value⟩

theorem Input.step (hinput : Input s id s') : Step s s' := by
  cases hinput with
  | filledIn field value => exact .filledIn id field value
  | clicked component => exact .clicked id component
  | answered value => exact .answered id value

theorem Unheard.trans (hfirst : Unheard s r) (hsecond : Unheard r s') : Unheard s s' where
  active := hsecond.active.trans hfirst.active
  flows := by
    intro owner
    exact (hsecond.flows owner).trans (hfirst.flows owner)
  scopeOf := by
    intro owner
    exact (hsecond.scopeOf owner).trans (hfirst.scopeOf owner)
  scopes := by
    intro owner flow hflow scope hworks
    refine (hsecond.scopes ((hfirst.flows owner).trans hflow) scope ?_).trans
      (hfirst.scopes hflow scope hworks)
    rw [hfirst.scopeOf owner]
    exact hworks

/-- Any number of inputs stay unheard. -/
theorem Inputs.unheard (hinputs : Inputs s s') (hsound : s.Sound) : Unheard s s' := by
  have hall : Unheard s s' ∧ s'.Sound := by
    induction hinputs with
    | refl => exact ⟨⟨rfl, fun _ => rfl, fun _ => rfl, fun _ _ _ => rfl⟩, hsound⟩
    | tail _ hinput ih =>
        obtain ⟨hunheard, hsound'⟩ := ih
        obtain ⟨id, hinput⟩ := hinput
        obtain ⟨left, hconfined⟩ := hinput.confined hsound'.history
        exact ⟨hunheard.trans (hconfined.toSpares.unheard hsound'.wired),
          Moves.sound hinput.step.moves hsound'⟩
  exact hall.1

end

/-- Every input, whether it succeeds or not, changes at most the task it is about, the scope of that
task, and the history by one record.  No flow learns of inputs, however many there are, before the
next pull. -/
theorem input_confined {s : Session} (hdriven : s.Driven) :
    (∀ id s', Input s id s' → ∃ left, Confined id left s s') ∧
      ∀ s', Inputs s s' → Unheard s s' := by
  have hsound := hdriven.accounted.1.sound
  constructor
  · intro id s' hinput
    exact hinput.confined hsound.history
  · intro s' hinputs
    exact hinputs.unheard hsound

/-- A screen of the inner flow is completed and recorded, and then the stale screen of the flow
around it is clicked: neither flow changes. -/
theorem detour_input_confined :
    (∃ left, Confined ⟨3⟩ left detourFirst (detourFirst.click ⟨3⟩ "next").2) ∧
      (detourFirst.click ⟨3⟩ "next").2.historyDepth = detourFirst.historyDepth + 1 ∧
      Unheard detourFirst ((detourFirst.click ⟨3⟩ "next").2.click ⟨1⟩ "next").2 := by
  have hdriven : detourFirst.Driven :=
    Reachable.driven (reachable_carryOut [.pull, .click ⟨1⟩ "next", .pull] (by decide +kernel) rfl
      (by decide +kernel))
  have hnext : Input detourFirst ⟨3⟩ (detourFirst.click ⟨3⟩ "next").2 :=
    .clicked "next" (by decide +kernel)
  have hstale : Input (detourFirst.click ⟨3⟩ "next").2 ⟨1⟩
      ((detourFirst.click ⟨3⟩ "next").2.click ⟨1⟩ "next").2 :=
    .clicked "next" (by decide +kernel)
  obtain ⟨hconfined, hunheard⟩ := input_confined hdriven
  refine ⟨hconfined ⟨3⟩ _ hnext, by decide +kernel, ?_⟩
  exact hunheard _ ((Relation.ReflTransGen.single ⟨⟨3⟩, hnext⟩).tail ⟨⟨1⟩, hstale⟩)

end Session

end Workflow
