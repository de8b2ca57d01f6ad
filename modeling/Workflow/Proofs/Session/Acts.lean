import Workflow.Proofs.Screen.Pressing
import Workflow.Proofs.Session.Runs

/-!
# What an operation on a task can do

Filling in, clicking and answering come to a few acts, `Session.Act id`, on the task they name: its
screen is changed, patches go to its scope, it is completed, it is recorded as a screen that is
left, and a request to go back is handled or refused.  `fillIn_acts`, `click_acts` and `answer_acts`
say so for every operation, whether it fails or not.

Going back apart, an act touches one task, which is no flow, and its scope.
-/

namespace Workflow

/-- Whether a task is one that the program around a session acts on. -/
def Task.takesInput (task : Task) : Bool :=
  match task.activity with
  | .screen _ | .remoteCall _ => true
  | _ => false

theorem Task.isFlow_of_takesInput {task : Task} (hinput : task.takesInput = true) :
    task.isFlow = false := by
  unfold takesInput at hinput
  unfold isFlow flow?
  split at hinput <;> simp_all

/-- The scopes that a flow has open inside its own: that of its child, and that of its pass. -/
def Flow.inside (flow : Flow) : List ScopeId :=
  (flow.current.map Child.scope).toList ++ flow.pass.toList

theorem Flow.mem_inside {flow : Flow} {scope : ScopeId} :
    scope ∈ flow.inside ↔
      (∃ child, flow.current = some child ∧ child.scope = scope) ∨ flow.pass = some scope := by
  simp [inside]

namespace Session

/-- A screen is recorded as left, and its record announced. -/
def remember (s : Session) (flow : Flow) (entry : Visit) : Session :=
  { s with history := s.history.push entry }.emit (.screenLeft flow.definition entry.screen)

/-- One act on the task `id`. -/
inductive Act (id : TaskId) (s : Session) : Session → Prop
  | screenSet {task : Task} {old : Screen} (new : Screen) (htask : s.taskAt? id = some task)
      (hscreen : task.activity = .screen old) (hkept : new.skeleton = old.skeleton) :
      Act id s (s.setScreen id new)
  | resultMerged {task : Task} (patch : Value) (htask : s.taskAt? id = some task)
      (hinput : task.takesInput = true) : Act id s (s.modifyScope task.scope (·.mergeResult patch))
  | patched {task : Task} (patch : Value) (htask : s.taskAt? id = some task)
      (hinput : task.takesInput = true) :
      Act id s (s.modifyScope task.scope fun scope => (scope.mergeResult patch).mergeState patch)
  | completed {task : Task} (htask : s.taskAt? id = some task) (hinput : task.takesInput = true) :
      Act id s (s.complete id)
  | recorded {flow : Flow} {entry : Visit} (hvisit : s.visitOf id = .ok (some (flow, entry))) :
      Act id s (s.remember flow entry)
  | returned {task : Task} {entry : Visit} {target : ScopeId} (htask : s.taskAt? id = some task)
      (hentry : s.history.head? = some entry)
      (htarget : s.returnTarget? entry.flow task.owner s.active.toList = some target) :
      Act id s ((s.restore target entry).emit (.backAsked task.name true))
  | refused {task : Task} (htask : s.taskAt? id = some task) :
      Act id s (s.emit (.backAsked task.name false))

/-- Any number of acts on one task. -/
def Acts (id : TaskId) : Session → Session → Prop :=
  Relation.ReflTransGen (Act id)

/-! ## Returning to a record -/

/-- The scopes that the flow of a task has open inside its own. -/
def insideOf (s : Session) (id : TaskId) : List ScopeId :=
  (s.flowAt? id).elim [] Flow.inside

theorem insideOf_eq {s : Session} {id : TaskId} {flow : Flow} (hflow : s.flowAt? id = some flow) :
    s.insideOf id = flow.inside := by
  rw [insideOf, hflow]
  rfl

theorem closeInside_eq (s : Session) (id : TaskId) :
    s.closeInside id = s.closeAll (s.insideOf id) := by
  unfold closeInside
  cases hfound : s.flow id with
  | ok flow =>
      rw [insideOf_eq (flow_eq_ok_iff.mp hfound)]
      rfl
  | error error =>
      cases hflow : s.flowAt? id with
      | none =>
          rw [insideOf, hflow]
          rfl
      | some flow =>
          rw [flow_eq_ok_iff.mpr hflow] at hfound
          cases hfound

/-- Closing what is open inside a flow changes scopes only. -/
@[simp] theorem closeInside_others (s : Session) (id : TaskId) :
    (s.closeInside id).tasks = s.tasks ∧
      (s.closeInside id).repository = s.repository ∧
      (s.closeInside id).settings = s.settings ∧
      (s.closeInside id).root = s.root ∧
      (s.closeInside id).active = s.active ∧
      (s.closeInside id).history = s.history ∧
      (s.closeInside id).redirectedTo = s.redirectedTo ∧
      (s.closeInside id).events = s.events ∧
      (s.closeInside id).scopes.size = s.scopes.size := by
  rw [closeInside_eq]
  exact closeAll_others s (s.insideOf id)

/-- Abandoning a flow changes scopes, and takes the flow from those being run. -/
@[simp] theorem abandon_others (s : Session) (scope : ScopeId) :
    (s.abandon scope).tasks = s.tasks ∧
      (s.abandon scope).repository = s.repository ∧
      (s.abandon scope).settings = s.settings ∧
      (s.abandon scope).root = s.root ∧
      (s.abandon scope).active = s.active.pop ∧
      (s.abandon scope).history = s.history ∧
      (s.abandon scope).redirectedTo = s.redirectedTo ∧
      (s.abandon scope).events = s.events ∧
      (s.abandon scope).scopes.size = s.scopes.size := by
  simp only [abandon]
  split <;> simp

/-- Unwinding changes scopes and the flows being run only. -/
theorem unwindTo_others (target : ScopeId) (scopes : List ScopeId) :
    ∀ s : Session, (unwindTo target scopes s).tasks = s.tasks ∧
      (unwindTo target scopes s).repository = s.repository ∧
      (unwindTo target scopes s).settings = s.settings ∧
      (unwindTo target scopes s).root = s.root ∧
      (unwindTo target scopes s).history = s.history ∧
      (unwindTo target scopes s).redirectedTo = s.redirectedTo ∧
      (unwindTo target scopes s).events = s.events ∧
      (unwindTo target scopes s).scopes.size = s.scopes.size := by
  induction scopes with
  | nil => simp [unwindTo]
  | cons scope scopes ih =>
      intro s
      unfold unwindTo
      split_ifs
      · simp
      · simpa using ih (s.abandon scope)

/-- The session in which a record is restored: what was open inside the flow is closed, and its
trees are those of the record. -/
def reopened (s : Session) (target : ScopeId) (entry : Visit) : Session :=
  ((unwindTo target s.active.toList s).closeInside entry.flow).modifyScope target
    (·.reopen entry.state entry.result)

@[simp] theorem reopened_others (s : Session) (target : ScopeId) (entry : Visit) :
    (s.reopened target entry).tasks = s.tasks ∧
      (s.reopened target entry).repository = s.repository ∧
      (s.reopened target entry).settings = s.settings ∧
      (s.reopened target entry).root = s.root ∧
      (s.reopened target entry).active = (unwindTo target s.active.toList s).active ∧
      (s.reopened target entry).history = s.history ∧
      (s.reopened target entry).redirectedTo = s.redirectedTo ∧
      (s.reopened target entry).events = s.events ∧
      (s.reopened target entry).scopes.size = s.scopes.size := by
  simp [reopened, unwindTo_others]

/-- Reopening a pass changes scopes only. -/
@[simp] theorem reopenPass_others (s : Session) (target : ScopeId) (pass : Option (Value × Value)) :
    (s.reopenPass target pass).2.tasks = s.tasks ∧
      (s.reopenPass target pass).2.repository = s.repository ∧
      (s.reopenPass target pass).2.settings = s.settings ∧
      (s.reopenPass target pass).2.root = s.root ∧
      (s.reopenPass target pass).2.active = s.active ∧
      (s.reopenPass target pass).2.history = s.history ∧
      (s.reopenPass target pass).2.redirectedTo = s.redirectedTo ∧
      (s.reopenPass target pass).2.events = s.events := by
  unfold reopenPass
  split <;> simp

/-- The pass that is open in the flow of a record once it is restored. -/
def passBack (s : Session) (target : ScopeId) (entry : Visit) : Option ScopeId :=
  ((s.reopened target entry).reopenPass target entry.pass).1

/-- The session in which the flow of a record is back where it was recorded. -/
def rewound (s : Session) (target : ScopeId) (entry : Visit) : Session :=
  ((s.reopened target entry).reopenPass target entry.pass).2.modifyFlow entry.flow
    (·.returnTo entry.mark (s.passBack target entry))

theorem restore_eq (s : Session) (target : ScopeId) (entry : Visit) :
    s.restore target entry =
      { s.rewound target entry with history := (s.rewound target entry).history.pop } := rfl

/-- Restoring a record changes scopes, the flows being run, and the flow of the record, which is
forgotten. -/
@[simp] theorem restore_others (s : Session) (target : ScopeId) (entry : Visit) :
    (s.restore target entry).repository = s.repository ∧
      (s.restore target entry).settings = s.settings ∧
      (s.restore target entry).root = s.root ∧
      (s.restore target entry).active = (unwindTo target s.active.toList s).active ∧
      (s.restore target entry).history = s.history.pop ∧
      (s.restore target entry).redirectedTo = s.redirectedTo ∧
      (s.restore target entry).events = s.events ∧
      (s.restore target entry).tasks.size = s.tasks.size := by
  simp [restore_eq, rewound]

theorem taskAt?_restore (s : Session) (target : ScopeId) (entry : Visit) (id : TaskId) :
    (s.restore target entry).taskAt? id =
      if entry.flow = id then
        (s.taskAt? id).map (Task.mapFlow (·.returnTo entry.mark (s.passBack target entry)))
      else s.taskAt? id := by
  have hsame : ((s.reopened target entry).reopenPass target entry.pass).2.taskAt? id =
      s.taskAt? id := by
    simp [taskAt?]
  rw [restore_eq, ← hsame]
  exact taskAt?_modifyFlow _ entry.flow _ id

/-! ## The operations -/

def IsScreen (s : Session) (id : TaskId) : Prop :=
  ∃ task screen, s.taskAt? id = some task ∧ task.activity = .screen screen

theorem Task.takesInput_of_screen {task : Task} {screen : Screen}
    (hscreen : task.activity = .screen screen) : task.takesInput = true := by
  simp [Task.takesInput, hscreen]

theorem Task.takesInput_of_remoteCall {task : Task} {call : RemoteCall}
    (hcall : task.activity = .remoteCall call) : task.takesInput = true := by
  simp [Task.takesInput, hcall]

theorem taskAt?_setScreen (s : Session) (id : TaskId) (screen : Screen) (other : TaskId) :
    (s.setScreen id screen).taskAt? other =
      if id = other then (s.taskAt? other).map ({ · with activity := .screen screen })
      else s.taskAt? other :=
  taskAt?_modifyTask s id _ other

/-- A screen stays a screen. -/
theorem Act.isScreen {s s' : Session} {id : TaskId} (hact : Act id s s')
    (hscreen : s.IsScreen id) : s'.IsScreen id := by
  obtain ⟨task, screen, htask, hactivity⟩ := hscreen
  cases hact with
  | screenSet new =>
      refine ⟨{ task with activity := .screen new }, new, ?_, rfl⟩
      simp [taskAt?_setScreen, htask]
  | resultMerged => exact ⟨task, screen, htask, hactivity⟩
  | patched => exact ⟨task, screen, htask, hactivity⟩
  | completed =>
      exact ⟨{ task with complete := true }, screen, by simp [taskAt?_complete, htask], hactivity⟩
  | recorded => exact ⟨task, screen, htask, hactivity⟩
  | returned _ _ _ =>
      refine ⟨task, screen, ?_, hactivity⟩
      have hflow : task.isFlow = false := by simp [Task.isFlow, Task.flow?, hactivity]
      rw [taskAt?_emit, taskAt?_restore, htask]
      split_ifs <;> simp [Task.mapFlow_of_not_isFlow, hflow]
  | refused => exact ⟨task, screen, htask, hactivity⟩

theorem screenTask_eq_ok_iff {s : Session} {id : TaskId} {task : Task} {screen : Screen} :
    s.screenTask id = .ok (task, screen) ↔
      s.taskAt? id = some task ∧ task.activity = .screen screen := by
  unfold screenTask
  cases hfound : s.task id with
  | error error =>
      have : ∀ found, s.taskAt? id ≠ some found := by
        intro found hsome
        rw [← task_eq_ok_iff, hfound] at hsome
        cases hsome
      simp [this]
  | ok found =>
      rw [task_eq_ok_iff.mp hfound]
      dsimp only
      split <;> constructor <;> intro h <;> simp_all

theorem screenTask_of_isScreen {s : Session} {id : TaskId} (hscreen : s.IsScreen id) :
    ∃ task screen, s.screenTask id = .ok (task, screen) ∧ s.taskAt? id = some task ∧
      task.activity = .screen screen := by
  obtain ⟨task, screen, htask, hactivity⟩ := hscreen
  exact ⟨task, screen, screenTask_eq_ok_iff.mpr ⟨htask, hactivity⟩, htask, hactivity⟩

theorem Acts.isScreen {s s' : Session} {id : TaskId} (hacts : Acts id s s')
    (hscreen : s.IsScreen id) : s'.IsScreen id := by
  induction hacts with
  | refl => exact hscreen
  | tail _ hact ih => exact hact.isScreen ih

/-- What recording a screen can come to: nothing, where the screen is not the child of its flow, or
one more record. -/
inductive Recorded (s : Session) (id : TaskId) : Session → Prop
  | nothing : Recorded s id s
  | visit {flow : Flow} {entry : Visit} (hvisit : s.visitOf id = .ok (some (flow, entry))) :
      Recorded s id (s.remember flow entry)

theorem recorded_of_recordHistory {s s' : Session} {id : TaskId}
    (hrecord : s.recordHistory id = .ok s') : Recorded s id s' := by
  unfold recordHistory at hrecord
  cases hvisit : s.visitOf id with
  | error error =>
      rw [hvisit] at hrecord
      cases hrecord
  | ok found =>
      rw [hvisit] at hrecord
      cases found with
      | none =>
          cases hrecord
          exact .nothing
      | some visit =>
          cases hrecord
          exact .visit hvisit

theorem Recorded.acts {s s' : Session} {id : TaskId} (hrecorded : Recorded s id s') :
    Acts id s s' := by
  cases hrecorded with
  | nothing => exact .refl
  | visit hvisit => exact .single (.recorded hvisit)

theorem Recorded.taskAt? {s s' : Session} {id : TaskId} (hrecorded : Recorded s id s')
    (other : TaskId) : s'.taskAt? other = s.taskAt? other := by
  cases hrecorded <;> rfl

/-- Leaving a screen records it, and then completes it with its result if it has one. -/
theorem leaveScreen_cases {s : Session} {id : TaskId} {task : Task}
    (htask : s.taskAt? id = some task) :
    ∃ recorded, Recorded s id recorded ∧ ((s.leaveScreen id).2 = recorded ∨
      ∃ screen result, task.activity = .screen screen ∧
        screen.result (recorded.taskJudge task) = .ok result ∧ (s.leaveScreen id).2 =
          (recorded.modifyScope task.scope (·.mergeResult result)).complete id) := by
  unfold leaveScreen
  rw [task_eq_ok_iff.mpr htask]
  dsimp only
  by_cases hcomplete : task.complete = true
  · exact ⟨s, .nothing, .inl (by rw [if_pos hcomplete])⟩
  · rw [if_neg hcomplete]
    cases hrecord : if s.settings.recordHistory = true then s.recordHistory id else .ok s with
    | error error => exact ⟨s, .nothing, .inl rfl⟩
    | ok recorded =>
        have hrecorded : Recorded s id recorded := by
          split_ifs at hrecord
          · exact recorded_of_recordHistory hrecord
          · cases hrecord
            exact .nothing
        refine ⟨recorded, hrecorded, ?_⟩
        cases hscreen : recorded.screenTask id with
        | error error =>
            left
            simp only [hscreen]
            rfl
        | ok found =>
            obtain ⟨found, screen⟩ := found
            obtain ⟨hfound, hactivity⟩ := screenTask_eq_ok_iff.mp hscreen
            rw [hrecorded.taskAt? id, htask] at hfound
            cases hfound
            cases hresult : screen.result (recorded.taskJudge task) with
            | error error =>
                left
                simp only [hscreen, bind, Except.bind, hresult]
            | ok result =>
                right
                refine ⟨screen, result, hactivity, hresult, ?_⟩
                simp only [hscreen, bind, Except.bind, hresult]

theorem leaveScreen_acts {s : Session} {id : TaskId} (hscreen : s.IsScreen id) :
    Acts id s (s.leaveScreen id).2 := by
  obtain ⟨task, screen, htask, hactivity⟩ := hscreen
  have hinput := Task.takesInput_of_screen hactivity
  obtain ⟨recorded, hrecorded, hleft | ⟨_, result, -, -, hleft⟩⟩ := leaveScreen_cases htask
  · exact hleft ▸ hrecorded.acts
  · have htask' : recorded.taskAt? id = some task := (hrecorded.taskAt? id).trans htask
    rw [hleft]
    exact (hrecorded.acts.tail (.resultMerged result htask' hinput)).tail
      (.completed htask' hinput)

/-- Judging a screen changes its messages only. -/
theorem judgeScreen_acts {s : Session} {id : TaskId} (hscreen : s.IsScreen id) :
    Acts id s (s.judgeScreen id).2 := by
  obtain ⟨task, screen, hfound, htask, hactivity⟩ := screenTask_of_isScreen hscreen
  simp only [judgeScreen, hfound]
  exact .single (.screenSet _ htask hactivity (screen.skeleton_validate _))

theorem submit_acts {s : Session} {id : TaskId} (hscreen : s.IsScreen id) :
    Acts id s (s.submit id).2 := by
  have hjudged := judgeScreen_acts hscreen
  unfold submit
  split
  · next judged hjudge =>
      rw [hjudge] at hjudged
      exact hjudged.trans (leaveScreen_acts (hjudged.isScreen hscreen))
  all_goals
    next judged hjudge =>
      rw [hjudge] at hjudged
      exact hjudged

theorem goBack_acts (s : Session) (id : TaskId) : Acts id s (s.goBack id).2 := by
  unfold goBack
  cases htask : s.task id with
  | error error => exact .refl
  | ok task =>
      have htask' := task_eq_ok_iff.mp htask
      dsimp only
      split
      · exact .single (.refused htask')
      · next target entry hfound =>
          obtain ⟨found, hentry, hmap⟩ := Option.bind_eq_some_iff.mp hfound
          obtain ⟨scope, htarget, hpair⟩ := Option.map_eq_some_iff.mp hmap
          cases hpair
          exact .single (.returned htask' hentry htarget)

theorem performAction_acts {s : Session} {id : TaskId} (hscreen : s.IsScreen id)
    (action : String) : Acts id s (s.performAction id action).2 := by
  unfold performAction
  split_ifs
  · exact submit_acts hscreen
  · exact leaveScreen_acts hscreen
  · exact goBack_acts s id
  · exact .refl

theorem perform_acts {s : Session} {id : TaskId} (hscreen : s.IsScreen id)
    (effect : ClickEffect) : Acts id s (s.perform id effect).2 := by
  cases effect with
  | update patch =>
      obtain ⟨task, screen, htask, hactivity⟩ := hscreen
      rw [perform, scopeOf_eq_of_taskAt? htask]
      exact .single (.patched patch htask (Task.takesInput_of_screen hactivity))
  | action name => exact performAction_acts hscreen name

theorem performAll_acts {id : TaskId} (effects : List ClickEffect) :
    ∀ {s : Session}, s.IsScreen id → Acts id s (s.performAll id effects).2 := by
  induction effects with
  | nil => exact fun _ => .refl
  | cons effect effects ih =>
      intro s hscreen
      have hfirst := perform_acts hscreen effect
      rw [performAll]
      split
      · next performed hperform =>
          rw [hperform] at hfirst
          exact hfirst.trans (ih (hfirst.isScreen hscreen))
      · next performed hperform => exact hperform ▸ hfirst

theorem openScreen_eq_ok {s : Session} {id : TaskId} {task : Task} {screen : Screen}
    (hopen : s.openScreen id = .ok (task, screen)) :
    s.taskAt? id = some task ∧ task.activity = .screen screen ∧ task.complete = false := by
  unfold openScreen at hopen
  cases hfound : s.openTaskAt id with
  | error error =>
      rw [hfound] at hopen
      cases hopen
  | ok found =>
      rw [hfound] at hopen
      obtain ⟨htask, hactivity⟩ := screenTask_eq_ok_iff.mp hopen
      unfold openTaskAt at hfound
      rw [task_eq_ok_iff.mpr htask] at hfound
      dsimp only at hfound
      split_ifs at hfound with hcomplete
      exact ⟨htask, hactivity, by simpa using hcomplete⟩

/-- Filling in a screen comes to nothing, or changes what the screen holds. -/
theorem fillIn_cases (s : Session) (id : TaskId) (field : String) (value : Value) :
    (s.fillIn id field value).2 = s ∨ ∃ task old new, s.taskAt? id = some task ∧
      task.activity = .screen old ∧ new.skeleton = old.skeleton ∧
      (s.fillIn id field value).2 = s.setScreen id new := by
  unfold fillIn
  cases hopen : s.openScreen id with
  | error error => exact .inl rfl
  | ok found =>
      obtain ⟨task, screen⟩ := found
      obtain ⟨htask, hactivity, -⟩ := openScreen_eq_ok hopen
      dsimp only [bind, Except.bind]
      split
      · next changed hset =>
          exact .inr ⟨task, screen, changed, htask, hactivity, Screen.skeleton_set hset, rfl⟩
      · exact .inl rfl

theorem fillIn_acts (s : Session) (id : TaskId) (field : String) (value : Value) :
    Acts id s (s.fillIn id field value).2 := by
  rcases fillIn_cases s id field value with hsame | ⟨task, old, new, htask, hactivity, hkept, hset⟩
  · rw [hsame]
    exact .refl
  · exact hset ▸ .single (.screenSet new htask hactivity hkept)

/-- A click on a component of an open screen presses it. -/
structure Presses (s : Session) (id : TaskId) (name : String) (task : Task) (screen : Screen)
    (place : Nat) (component : Component) : Prop
    extends screen.Presses task.name name (s.taskJudge task) place component where
  opened : s.openScreen id = .ok (task, screen)

/-- The session with a component of a screen pressed, before its effects are carried out. -/
def press (s : Session) (id : TaskId) (screen : Screen) (place : Nat) (component : Component) :
    Session :=
  s.setScreen id (screen.replace place component.press.2)

section

variable {s : Session} {id : TaskId} {name : String} {task : Task} {screen : Screen} {place : Nat}
  {component : Component}

theorem setScreen_self (htask : s.taskAt? id = some task)
    (hactivity : task.activity = .screen screen) : s.setScreen id screen = s := by
  have hat : s.tasks[id.index]? = some task := htask
  have hsame : (s.setScreen id screen).tasks = s.tasks := by
    apply Array.ext_getElem?
    intro index
    rw [setScreen, modifyTask, Array.getElem?_modify]
    split_ifs with hindex
    · rw [← hindex, hat, Option.map_some, ← hactivity]
    · rfl
  calc s.setScreen id screen = { s with tasks := (s.setScreen id screen).tasks } := rfl
    _ = s := by rw [hsame]

theorem Presses.isScreen (hpresses : s.Presses id name task screen place component) :
    s.taskAt? id = some task ∧ task.activity = .screen screen ∧ task.complete = false :=
  openScreen_eq_ok hpresses.opened

/-- What a press asks for is carried out once the component is pressed. -/
theorem Presses.click_eq (hpresses : s.Presses id name task screen place component) :
    s.click id name =
      match component.press.1 with
      | .ok effects => (s.press id screen place component).performAll id effects
      | .error error => (.error error, s.press id screen place component) := by
  rw [click, hpresses.opened]
  dsimp only
  rw [hpresses.toPresses.click_eq]
  rfl

/-- A click that presses nothing leaves the session as it is. -/
theorem presses_or_refused (s : Session) (id : TaskId) (name : String) :
    (∃ task screen place component, s.Presses id name task screen place component) ∨
      ∃ error, s.click id name = (.error error, s) := by
  cases hopen : s.openScreen id with
  | error error =>
      right
      exact ⟨error, by rw [click, hopen]⟩
  | ok found =>
      obtain ⟨task, screen⟩ := found
      obtain ⟨htask, hactivity, -⟩ := openScreen_eq_ok hopen
      rcases screen.presses_or_refused task.name name (s.taskJudge task) with
        ⟨place, component, hpresses⟩ | ⟨error, hrefused⟩
      · left
        exact ⟨task, screen, place, component, hpresses, hopen⟩
      · right
        refine ⟨error, ?_⟩
        rw [click, hopen]
        dsimp only
        rw [hrefused]
        dsimp only
        rw [setScreen_self htask hactivity]

end

/-- A click comes to nothing, or changes what the screen holds, and then what the clicked component
asks for is carried out, if that can be told. -/
theorem click_cases (s : Session) (id : TaskId) (component : String) :
    (s.click id component).2 = s ∨ ∃ task screen changed, s.taskAt? id = some task ∧
      task.activity = .screen screen ∧ changed.skeleton = screen.skeleton ∧
      ((s.click id component).2 = s.setScreen id changed ∨
        ∃ place pressed clicked effects,
          screen.find task.name component (s.taskJudge task) = .ok (place, pressed) ∧
            pressed.click (s.taskJudge task) = (.ok effects, clicked) ∧
            (s.click id component).2 = ((s.setScreen id changed).performAll id effects).2) := by
  rcases s.presses_or_refused id component with ⟨task, screen, place, pressed, hpresses⟩ |
    ⟨error, hrefused⟩
  · obtain ⟨htask, hactivity, -⟩ := hpresses.isScreen
    right
    refine ⟨task, screen, screen.replace place pressed.press.2, htask, hactivity,
      hpresses.toPresses.skeleton, ?_⟩
    rw [hpresses.click_eq]
    cases hpress : pressed.press.1 with
    | error error =>
        left
        rfl
    | ok effects =>
        right
        exact ⟨place, pressed, pressed.press.2, effects, hpresses.found,
          hpresses.press_eq.trans (Prod.ext hpress rfl), rfl⟩
  · left
    rw [hrefused]
theorem click_acts (s : Session) (id : TaskId) (component : String) :
    Acts id s (s.click id component).2 := by
  rcases click_cases s id component with hsame | ⟨task, screen, changed, htask, hactivity, hkept,
    hset⟩
  · rw [hsame]
    exact .refl
  · have hclicked : Acts id s (s.setScreen id changed) :=
      .single (.screenSet changed htask hactivity hkept)
    rcases hset with hset | ⟨place, pressed, clicked, effects, -, -, hset⟩
    · rw [hset]
      exact hclicked
    · rw [hset]
      exact hclicked.trans
        (performAll_acts effects (hclicked.isScreen ⟨task, screen, htask, hactivity⟩))

/-- Answering a remote call comes to nothing, or completes it with the patch for the answer. -/
theorem answer_cases (s : Session) (id : TaskId) (value : Value) :
    (s.answer id value).2 = s ∨ ∃ task call patch, s.taskAt? id = some task ∧
      task.activity = .remoteCall call ∧ call.answerPatch value = .ok patch ∧
        (s.answer id value).2 =
          (s.modifyScope task.scope (·.mergeResult patch)).complete id := by
  unfold answer
  cases hcall : s.remoteCall id with
  | error error => exact .inl rfl
  | ok call =>
      dsimp only [bind, Except.bind]
      cases hpatch : call.answerPatch value with
      | error error => exact .inl rfl
      | ok patch =>
          dsimp only
          cases s.openTaskAt id with
          | error error => exact .inl rfl
          | ok found =>
              obtain ⟨task, htask, hactivity⟩ : ∃ task, s.taskAt? id = some task ∧
                  task.activity = .remoteCall call := by
                unfold remoteCall at hcall
                split at hcall
                · next task htask =>
                    refine ⟨task, task_eq_ok_iff.mp htask, ?_⟩
                    split at hcall
                    · next hactivity =>
                        cases hcall
                        exact hactivity
                    · cases hcall
                · cases hcall
              refine .inr ⟨task, call, patch, htask, hactivity, hpatch, ?_⟩
              dsimp only [pure, Except.pure]
              rw [scopeOf_eq_of_taskAt? htask]

theorem answer_acts (s : Session) (id : TaskId) (value : Value) :
    Acts id s (s.answer id value).2 := by
  rcases answer_cases s id value with hsame | ⟨task, call, patch, htask, hcall, -, hanswer⟩
  · rw [hsame]
    exact .refl
  · have hinput := Task.takesInput_of_remoteCall hcall
    rw [hanswer]
    exact (Relation.ReflTransGen.single (.resultMerged patch htask hinput)).tail
      (.completed htask hinput)

/-! ## Moves -/

/-- What a session goes through, one turn or act at a time. -/
inductive Move (s : Session) : Session → Prop
  | turn {result : Except Error Turn} {s' : Session} (hturn : s.turn = (result, s')) : Move s s'
  | act {id : TaskId} {s' : Session} (hact : Act id s s') : Move s s'
  | breakpoint (name : String) : Move s (s.setBreakpoint name)

theorem Turns.moves {count : Nat} {s s' : Session} (hturns : Turns count s s') :
    Relation.ReflTransGen Move s s' := by
  induction hturns with
  | refl => exact .refl
  | turn hturn _ ih => exact .head (.turn hturn) ih

theorem Acts.moves {s s' : Session} {id : TaskId} (hacts : Acts id s s') :
    Relation.ReflTransGen Move s s' :=
  Relation.ReflTransGen.mono (fun _ _ hact => Move.act hact) _ _ hacts

/-- Every operation is a sequence of moves. -/
theorem Step.moves {s s' : Session} (hstep : Step s s') : Relation.ReflTransGen Move s s' := by
  cases hstep with
  | pulled hpull hanswer =>
      obtain ⟨count, r, result, hturns, hlast, -⟩ := exists_last_turn hpull hanswer
      exact hturns.moves.tail (.turn hlast)
  | filledIn id field value => exact (fillIn_acts s id field value).moves
  | clicked id component => exact (click_acts s id component).moves
  | answered id value => exact (answer_acts s id value).moves
  | breakpointSet name => exact .single (.breakpoint name)

theorem Run.moves {s s' : Session} (hrun : Run s s') : Relation.ReflTransGen Move s s' := by
  induction hrun with
  | refl => exact .refl
  | tail _ hstep ih => exact ih.trans hstep.moves

end Session

end Workflow
