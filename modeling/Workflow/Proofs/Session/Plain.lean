import Workflow.Proofs.Session.Frames

/-!
# Sessions without breakpoints

`Session.plain` is a session with its breakpoints taken away, and with them the marks on the
children that were handed out for one.  Nothing but the test for a breakpoint reads either of them:
each part of an operation does to the plain session what it does to the session, and answers the
same.

The parts of a turn are here up to `settleChild`, and so are the operations on tasks.
-/

namespace Workflow

/-- A flow whose child is not marked as handed out for its breakpoint. -/
def Flow.plain (flow : Flow) : Flow :=
  { flow with current := flow.current.map fun child => { child with interrupted := false } }

/-- A task whose child, if it is a flow with one, is not marked. -/
def Task.plain (task : Task) : Task :=
  task.mapFlow Flow.plain

@[simp] theorem Task.plain_others (task : Task) :
    task.plain.name = task.name ∧ task.plain.scope = task.scope ∧
      task.plain.owner = task.owner ∧ task.plain.complete = task.complete :=
  Task.mapFlow_others Flow.plain task

@[simp] theorem Task.flow?_plain (task : Task) : task.plain.flow? = task.flow?.map Flow.plain :=
  Task.flow?_mapFlow Flow.plain task

@[simp] theorem Task.isFlow_plain (task : Task) : task.plain.isFlow = task.isFlow :=
  Task.isFlow_mapFlow Flow.plain task

@[simp] theorem Task.sortName_plain (task : Task) : task.plain.sortName = task.sortName := by
  obtain ⟨name, scope, owner, complete, activity⟩ := task
  cases activity <;> rfl

@[simp] theorem Task.requiresInput_plain (task : Task) :
    task.plain.requiresInput = task.requiresInput := by
  obtain ⟨name, scope, owner, complete, activity⟩ := task
  cases activity <;> rfl

/-- The session without breakpoints: none is set, and no child is marked for one. -/
def Session.plain (s : Session) : Session :=
  { s with settings := { s.settings with breakpoints := [] }, tasks := s.tasks.map Task.plain }

def Outcome.plain {α : Type} (outcome : Outcome α) : Outcome α :=
  (outcome.1, outcome.2.plain)

namespace Session

variable (s : Session)

/-! ## Lookups -/

theorem tasks_plain (id : TaskId) :
    s.plain.tasks[id.index]? = s.tasks[id.index]?.map Task.plain :=
  Array.getElem?_map

@[simp] theorem task_plain (id : TaskId) : s.plain.task id = (s.task id).map Task.plain := by
  simp only [task, tasks_plain]
  cases s.tasks[id.index]? <;> rfl

@[simp] theorem flow_plain (id : TaskId) : s.plain.flow id = (s.flow id).map Flow.plain := by
  simp only [flow, task_plain]
  cases s.task id with
  | error error => rfl
  | ok task =>
      simp only [Except.map, Task.flow?_plain]
      cases task.flow? <;> simp [mismatch]

@[simp] theorem scopeOf_plain (id : TaskId) : s.plain.scopeOf id = s.scopeOf id := by
  simp only [scopeOf, tasks_plain]
  cases s.tasks[id.index]? <;> simp

@[simp] theorem ownerOf_plain (id : TaskId) : s.plain.ownerOf id = s.ownerOf id := by
  simp only [ownerOf, tasks_plain]
  cases s.tasks[id.index]? <;> simp

@[simp] theorem rootScope_plain : s.plain.rootScope = s.rootScope :=
  s.scopeOf_plain s.root

@[simp] theorem nextTask_plain : s.plain.nextTask = s.nextTask :=
  congrArg TaskId.mk (Array.size_map ..)

@[simp] theorem stateOf_plain (task : Task) : s.plain.stateOf task.plain = s.stateOf task := by
  simp only [stateOf, Task.plain_others]
  rfl

@[simp] theorem taskJudge_plain (task : Task) :
    s.plain.taskJudge task.plain = s.taskJudge task := by
  rw [taskJudge, stateOf_plain]
  rfl

/-! ## Elementary steps -/

theorem plain_modifyScope (scope : ScopeId) (change : Scope → Scope) :
    (s.modifyScope scope change).plain = s.plain.modifyScope scope change := rfl

theorem plain_openScope (state : Value) (parent : Option ScopeId) :
    (s.openScope state parent).plain = s.plain.openScope state parent := rfl

theorem plain_closeScope (scope : ScopeId) :
    (s.closeScope scope).plain = s.plain.closeScope scope := by
  simp only [closeScope, plain_modifyScope, rootScope_plain]

/-- One task is changed, and the plain tasks are changed there in their own way. -/
theorem map_plain_modify {change : Task → Task} (changePlain : Task → Task)
    (hchange : ∀ task, (change task).plain = changePlain task.plain) (tasks : Array Task)
    (place : Nat) : (tasks.modify place change).map Task.plain =
      (tasks.map Task.plain).modify place changePlain := by
  apply Array.ext_getElem?
  intro other
  simp only [Array.getElem?_map, Array.getElem?_modify]
  split
  · cases tasks[other]? with
    | none => rfl
    | some task => simp [hchange]
  · rfl

theorem plain_modifyTask (id : TaskId) {change : Task → Task}
    (hchange : ∀ task, (change task).plain = change task.plain) :
    (s.modifyTask id change).plain = s.plain.modifyTask id change := by
  simp only [plain, modifyTask, map_plain_modify change hchange]

theorem plain_modifyFlow (id : TaskId) {change : Flow → Flow}
    (hchange : ∀ flow, (change flow).plain = change flow.plain) :
    (s.modifyFlow id change).plain = s.plain.modifyFlow id change := by
  apply plain_modifyTask s id
  intro task
  obtain ⟨name, scope, owner, complete, activity⟩ := task
  cases activity with
  | flow flow => simp [Task.plain, Task.mapFlow, hchange]
  | _ => rfl

theorem plain_complete (id : TaskId) : (s.complete id).plain = s.plain.complete id := by
  apply plain_modifyTask s id
  intro task
  obtain ⟨name, scope, owner, complete, activity⟩ := task
  cases activity <;> rfl

theorem plain_setScreen (id : TaskId) (screen : Screen) :
    (s.setScreen id screen).plain = s.plain.setScreen id screen := by
  apply plain_modifyTask s id
  intro task
  obtain ⟨name, scope, owner, complete, activity⟩ := task
  cases activity <;> rfl

theorem plain_openTask (task : Task) :
    (s.openTask task).plain = s.plain.openTask task.plain := by
  have htasks : (s.tasks.push task).map Task.plain = (s.tasks.map Task.plain).push task.plain :=
    Array.map_push
  simp only [openTask, plain_modifyScope, nextTask_plain, Task.plain_others, Task.isFlow_plain]
  simp only [plain, htasks]

/-- A change of a flow that only its marks can tell is undone. -/
theorem plain_modifyFlow_of_same (owner : TaskId) {change : Flow → Flow}
    (hchange : ∀ flow, (change flow).plain = flow.plain) :
    (s.modifyFlow owner change).plain = s.plain := by
  have htask : ∀ task : Task, (task.mapFlow change).plain = task.plain := by
    intro task
    obtain ⟨name, scope, owner, complete, activity⟩ := task
    cases activity with
    | flow flow => simp [Task.plain, Task.mapFlow, hchange]
    | _ => rfl
  have htasks : (s.tasks.modify owner.index (Task.mapFlow change)).map Task.plain =
      s.tasks.map Task.plain := by
    rw [map_plain_modify id htask]
    apply Array.ext_getElem?
    intro place
    rw [Array.getElem?_modify, Option.map_id, id, ite_self]
  simp only [plain, modifyFlow_eq, modifyTask, htasks]

theorem plain_markInterrupted (id : TaskId) : (s.markInterrupted id).plain = s.plain := by
  apply plain_modifyFlow_of_same s id
  intro flow
  simp only [Flow.plain, Option.map_map]
  rfl

theorem plain_setBreakpoint (name : String) : (s.setBreakpoint name).plain = s.plain := by
  simp only [setBreakpoint, SessionSettings.insertBreakpoint]
  split <;> rfl

/-! ## The steps of a turn -/

theorem around_plain (id : TaskId) (flow : Flow) :
    s.plain.around id flow.plain = s.around id flow := by
  rw [around, scopeOf_plain]
  rfl

theorem ambient_plain (id : TaskId) (flow : Flow) :
    s.plain.ambient id flow.plain = s.ambient id flow := by
  rw [ambient, around_plain]
  rfl

theorem shows_plain (id : TaskId) (flow : Flow) (decl : TaskDecl) :
    s.plain.shows id flow.plain decl = s.shows id flow decl := by
  rw [shows, ambient_plain]
  rfl

theorem plain_attempt (id : TaskId) (flow : Flow) :
    (s.attempt id flow).plain = s.plain.attempt id flow.plain := by
  simp only [attempt, plain_openScope, ambient_plain, around_plain]
  exact congrArg (openScope · _ _) (plain_modifyFlow s id fun _ => rfl)

theorem plain_passOver (id : TaskId) (flow : Flow) :
    (s.passOver id flow).plain = s.plain.passOver id flow.plain := by
  rw [passOver, plain_closeScope, plain_attempt]
  rfl

/-- A task that a flow opens has nothing to mark. -/
theorem plain_declaredTask {id : TaskId} {decl : TaskDecl} {state : Value} {activity : Activity}
    (hactivity : s.repository.activity decl state = .ok activity) :
    (s.declaredTask id decl activity).plain = s.declaredTask id decl activity := by
  cases activity with
  | flow flow =>
      obtain ⟨repetition, settings, hstart⟩ := start_of_activity hactivity
      have hsame : flow.plain = flow := by
        rw [Flow.start_eq hstart]
        rfl
      simp only [declaredTask, Task.plain, Task.mapFlow, hsame]
  | _ => rfl

theorem plain_openChild {id : TaskId} {flow : Flow} {decl : TaskDecl} {activity : Activity}
    (hactivity : s.repository.activity decl (s.ambient id flow) = .ok activity) :
    (s.openChild id flow decl activity).plain =
      s.plain.openChild id flow.plain decl activity := by
  have hchild : s.plain.nextChild flow.plain = s.nextChild flow := by
    rw [nextChild, nextTask_plain]
    rfl
  rw [openChild_eq, openChild_eq, hchild, plain_modifyFlow, plain_openTask, plain_attempt,
    plain_declaredTask s hactivity]
  · rfl
  · exact fun _ => rfl

theorem plain_openDeclared (id : TaskId) (flow : Flow) (decl : TaskDecl) :
    s.plain.openDeclared id flow.plain decl = Outcome.plain (s.openDeclared id flow decl) := by
  rw [openDeclared_eq, openDeclared_eq, shows_plain, ambient_plain]
  cases s.shows id flow decl with
  | error error => exact congrArg (Prod.mk _) (s.plain_passOver id flow).symm
  | ok shown =>
      cases shown with
      | false => exact congrArg (Prod.mk _) (s.plain_passOver id flow).symm
      | true =>
          cases hactivity : s.repository.activity decl (s.ambient id flow) with
          | error error =>
              simp only [plain, hactivity]
              exact congrArg (Prod.mk _) (s.plain_passOver id flow).symm
          | ok activity =>
              simp only [plain, hactivity]
              exact congrArg (Prod.mk _) (s.plain_openChild hactivity).symm

theorem plain_publish (id : TaskId) :
    s.plain.publish id = Outcome.plain (s.publish id) := by
  simp only [publish, flow_plain, scopeOf_plain]
  cases s.flow id with
  | error error => rfl
  | ok flow =>
      have hsame : flow.plain.publication (s.plain.scope (s.scopeOf id)).state =
          flow.publication (s.scope (s.scopeOf id)).state := rfl
      simp only [Except.map, hsame]
      cases flow.publication (s.scope (s.scopeOf id)).state with
      | error error => rfl
      | ok result =>
          have hlast := plain_complete (s.modifyScope (s.scopeOf id) (·.mergeResult result)) id
          exact congrArg (Prod.mk _) hlast.symm

theorem isPassDue_plain (id : TaskId) (flow : Flow) :
    s.plain.isPassDue id flow.plain = s.isPassDue id flow := by
  simp only [isPassDue, scopeOf_plain]
  rfl

theorem plain_openPass (id : TaskId) (flow : Flow) :
    (s.openPass id flow).plain = s.plain.openPass id flow.plain := by
  simp only [openPass, scopeOf_plain]
  exact plain_modifyFlow _ id fun _ => rfl

theorem plain_nextPass (id : TaskId) (flow : Flow) :
    s.plain.nextPass id flow.plain = Outcome.plain (s.nextPass id flow) := by
  simp only [nextPass, isPassDue_plain]
  have hfinished : flow.plain.finished = flow.finished := rfl
  rw [hfinished]
  cases flow.finished with
  | true => exact s.plain_publish id
  | false =>
      cases s.isPassDue id flow with
      | error error => rfl
      | ok due =>
          cases due with
          | false =>
              have hmarked : (s.modifyFlow id fun flow => { flow with finished := true }).plain =
                  s.plain.modifyFlow id fun flow => { flow with finished := true } :=
                plain_modifyFlow s id fun _ => rfl
              have hlast := plain_publish
                (s.modifyFlow id fun flow => { flow with finished := true }) id
              rw [hmarked] at hlast
              exact hlast
          | true =>
              have hpasses : flow.plain.passes = flow.passes := rfl
              have hlimit : s.plain.settings.maxLoopPasses = s.settings.maxLoopPasses := rfl
              simp only [Bool.false_eq_true, ↓reduceIte, hpasses, hlimit]
              split
              · rfl
              · exact congrArg (Prod.mk _) (s.plain_openPass id flow).symm

theorem plain_foldPass (id : TaskId) (flow : Flow) :
    s.plain.foldPass id flow.plain = Outcome.plain (s.foldPass id flow) := by
  have hpass : flow.plain.pass = flow.pass := rfl
  simp only [foldPass, hpass]
  cases flow.pass with
  | none => rfl
  | some pass =>
      have hsame : flow.plain.snapshotOf (s.plain.scope pass).state (s.plain.scope pass).result =
          flow.snapshotOf (s.scope pass).state (s.scope pass).result := rfl
      simp only [hsame, scopeOf_plain]
      cases flow.snapshotOf (s.scope pass).state (s.scope pass).result with
      | error error => rfl
      | ok snapshot =>
          dsimp only [Outcome.plain]
          rw [plain_modifyFlow, plain_closeScope]
          · rfl
          · exact fun _ => rfl

theorem effect_plain (task : Task) :
    s.plain.effect task.plain = (s.effect task).map plain := by
  obtain ⟨name, scope, owner, complete, activity⟩ := task
  cases activity with
  | update instructions =>
      change (Instruction.chainedPatch instructions (s.scope scope).state).map _ =
        ((Instruction.chainedPatch instructions (s.scope scope).state).map _).map plain
      cases Instruction.chainedPatch instructions (s.scope scope).state <;> rfl
  | event action =>
      simp only [effect, Task.plain, Task.mapFlow]
      split
      · cases owner with
        | none => rfl
        | some owner =>
            dsimp only [Except.map]
            rw [plain_modifyFlow]
            exact fun _ => rfl
      · rfl
  | remoteCall call =>
      simp only [effect, Task.plain, Task.mapFlow]
      split <;> rfl
  | _ => rfl

theorem plain_runChild (id : TaskId) (child : Child) (interrupted : Bool) (task : Task) :
    s.plain.runChild id { child with interrupted } task.plain =
      Outcome.plain (s.runChild id child task) := by
  simp only [runChild, Task.plain_others, effect_plain]
  cases task.complete with
  | true => rfl
  | false =>
      cases s.effect task with
      | ok ran => exact congrArg (Prod.mk _) (ran.plain_complete child.task).symm
      | error error =>
          dsimp only [Outcome.plain, Except.map]
          rw [if_neg Bool.false_ne_true, if_neg Bool.false_ne_true, plain_modifyFlow,
            plain_closeScope]
          exact fun _ => rfl

theorem plain_foldChild (id : TaskId) (child : Child) (interrupted : Bool) :
    (s.foldChild id child).plain = s.plain.foldChild id { child with interrupted } := by
  have hpass : ((s.plain.flow id).toOption.bind Flow.pass) =
      (s.flow id).toOption.bind Flow.pass := by
    rw [flow_plain]
    cases s.flow id <;> rfl
  simp only [foldChild, hpass, scopeOf_plain]
  rw [plain_modifyFlow, plain_closeScope]
  · cases (s.flow id).toOption.bind Flow.pass <;> rfl
  · exact fun _ => rfl

theorem plain_settleChild (id : TaskId) (child : Child) (interrupted : Bool) (task : Task) :
    s.plain.settleChild id { child with interrupted } task.plain =
      Outcome.plain (s.settleChild id child task) := by
  simp only [settleChild, plain_runChild]
  rcases s.runChild id child task with ⟨result, ran⟩
  cases result with
  | error error => rfl
  | ok done => exact congrArg (Prod.mk _) (ran.plain_foldChild id child interrupted).symm

theorem plain_proceed (id : TaskId) (flow : Flow) :
    s.plain.proceed id flow.plain = Outcome.plain (s.proceed id flow) := by
  have hdeclared : Keyed.get? flow.plain.definition s.plain.repository.flows =
      Keyed.get? flow.definition s.repository.flows := rfl
  rw [proceed, proceed, hdeclared]
  cases Keyed.get? flow.definition s.repository.flows with
  | none => rfl
  | some declared =>
      have hnext : flow.plain.nextStep declared.tasks = flow.nextStep declared.tasks := rfl
      simp only [hnext]
      cases flow.nextStep declared.tasks with
      | openTask decl => exact s.plain_openDeclared id flow decl
      | nextPass => exact s.plain_nextPass id flow
      | foldPass => exact s.plain_foldPass id flow
      | publish => exact s.plain_publish id

theorem plain_leave (scope : ScopeId) : s.plain.leave scope = Outcome.plain (s.leave scope) := by
  simp only [leave]
  change (if s.active.pop.isEmpty then _ else _) =
    Outcome.plain (if s.active.pop.isEmpty then _ else _)
  split
  · exact congrArg (Prod.mk _) (plain_closeScope { s with active := s.active.pop } scope).symm
  · rfl

end Session

end Workflow
