import Mathlib.Tactic.SplitIfs
import Workflow.Proofs.Value.Fields
import Workflow.Session.Input
import Workflow.Session.Pull

/-!
# Looking things up in a changed session

A session changes by a few elementary steps: a scope or a task is changed or opened, a scope is
closed, an event is emitted.  For each of them this module says what is found afterwards at every
place, and that nothing else is touched.  Lookups are read as options here, `taskAt?`, `flowAt?` and
`scopeAt?`; the failing lookups of a session agree with them.

The binding of a scope is what ties it to the rest of a session: its parent and its task.  It is
kept apart from the trees, because input and folding change trees and never a binding.
-/

namespace Workflow

theorem TaskId.index_inj {a b : TaskId} : a.index = b.index ↔ a = b := by
  cases a
  cases b
  simp

theorem ScopeId.index_inj {a b : ScopeId} : a.index = b.index ↔ a = b := by
  cases a
  cases b
  simp

theorem TaskId.ne_of_lt {a b : TaskId} (hlt : a.index < b.index) : a ≠ b :=
  fun heq => Nat.ne_of_lt hlt (TaskId.index_inj.mpr heq)

theorem ScopeId.ne_of_lt {a b : ScopeId} (hlt : a.index < b.index) : a ≠ b :=
  fun heq => Nat.ne_of_lt hlt (ScopeId.index_inj.mpr heq)

namespace Scope

/-- What ties a scope to the other parts of its session. -/
structure Binding where
  parent : Option ScopeId
  task : Option TaskId
  flow : Option TaskId

/-- The binding of a scope. -/
def binding (scope : Scope) : Binding :=
  ⟨scope.parent, scope.task, scope.flow⟩

/-- A change of trees, or of whether a scope is open, keeps its binding. -/
def KeepsBinding (change : Scope → Scope) : Prop :=
  ∀ scope, (change scope).binding = scope.binding

theorem keepsBinding_mergeState (patch : Value) : KeepsBinding (·.mergeState patch) :=
  fun _ => rfl

theorem keepsBinding_mergeResult (patch : Value) : KeepsBinding (·.mergeResult patch) :=
  fun _ => rfl

theorem keepsBinding_reopen (state result : Value) : KeepsBinding (·.reopen state result) :=
  fun _ => rfl

theorem keepsBinding_release (keepsTrees : Bool) : KeepsBinding (·.release keepsTrees) := by
  intro scope
  simp only [release]
  split_ifs <;> rfl

theorem released_release (scope : Scope) (keepsTrees : Bool) :
    (scope.release keepsTrees).released = true := by
  unfold release
  split_ifs with hreleased
  · exact hreleased
  · rfl
  · rfl

/-- Releasing a scope that is released does nothing. -/
theorem release_release (scope : Scope) (keepsTrees : Bool) :
    (scope.release keepsTrees).release keepsTrees = scope.release keepsTrees := by
  rw [release.eq_1 (scope.release keepsTrees), if_pos (released_release scope keepsTrees)]

theorem KeepsBinding.comp {first second : Scope → Scope} (hfirst : KeepsBinding first)
    (hsecond : KeepsBinding second) : KeepsBinding fun scope => second (first scope) :=
  fun scope => (hsecond _).trans (hfirst scope)

end Scope

namespace Task

/-- The task with its flow changed; a task of another sort stays as it is. -/
def mapFlow (change : Flow → Flow) (task : Task) : Task :=
  match task.activity with
  | .flow flow => { task with activity := .flow (change flow) }
  | _ => task

@[simp] theorem mapFlow_others (change : Flow → Flow) (task : Task) :
    (task.mapFlow change).name = task.name ∧
      (task.mapFlow change).scope = task.scope ∧
      (task.mapFlow change).owner = task.owner ∧
      (task.mapFlow change).complete = task.complete := by
  unfold mapFlow
  split <;> simp

@[simp] theorem flow?_mapFlow (change : Flow → Flow) (task : Task) :
    (task.mapFlow change).flow? = task.flow?.map change := by
  obtain ⟨name, scope, owner, complete, activity⟩ := task
  cases activity <;> rfl

@[simp] theorem isFlow_mapFlow (change : Flow → Flow) (task : Task) :
    (task.mapFlow change).isFlow = task.isFlow := by
  simp [isFlow]

theorem mapFlow_of_not_isFlow (change : Flow → Flow) {task : Task} (hflow : task.isFlow = false) :
    task.mapFlow change = task := by
  unfold mapFlow
  split
  · next flow hactivity => simp [isFlow, flow?, hactivity] at hflow
  · rfl

theorem mapFlow_id (task : Task) : task.mapFlow (fun flow => flow) = task := by
  obtain ⟨name, scope, owner, complete, activity⟩ := task
  cases activity <;> rfl

theorem mapFlow_mapFlow (first second : Flow → Flow) (task : Task) :
    (task.mapFlow first).mapFlow second = task.mapFlow fun flow => second (first flow) := by
  obtain ⟨name, scope, owner, complete, activity⟩ := task
  cases activity <;> rfl

theorem flow?_eq_some_iff {task : Task} {flow : Flow} :
    task.flow? = some flow ↔ task.activity = .flow flow := by
  unfold flow?
  split <;> simp_all

end Task

namespace Session

def taskAt? (session : Session) (id : TaskId) : Option Task :=
  session.tasks[id.index]?

def scopeAt? (session : Session) (id : ScopeId) : Option Scope :=
  session.scopes[id.index]?

def flowAt? (session : Session) (id : TaskId) : Option Flow :=
  (session.taskAt? id).bind Task.flow?

theorem task_eq_ok_iff {session : Session} {id : TaskId} {task : Task} :
    session.task id = .ok task ↔ session.taskAt? id = some task := by
  unfold Session.task taskAt?
  split <;> simp_all

theorem flow_eq_ok_iff {session : Session} {id : TaskId} {flow : Flow} :
    session.flow id = .ok flow ↔ session.flowAt? id = some flow := by
  unfold Session.flow flowAt?
  cases htask : session.task id with
  | ok task =>
      simp only [task_eq_ok_iff.mp htask, Option.bind_some]
      cases hflow : task.flow? <;> simp
  | error error =>
      cases hat : session.taskAt? id with
      | none => simp
      | some task => simp [task_eq_ok_iff.mpr hat] at htask

theorem scope_eq (session : Session) (id : ScopeId) :
    session.scope id = (session.scopeAt? id).getD (.opened .empty none) := rfl

theorem scope_eq_of_scopeAt? {session : Session} {id : ScopeId} {scope : Scope}
    (hscope : session.scopeAt? id = some scope) : session.scope id = scope := by
  rw [scope_eq, hscope, Option.getD_some]

theorem scope_congr {session session' : Session} {id : ScopeId}
    (hscope : session'.scopeAt? id = session.scopeAt? id) :
    session'.scope id = session.scope id := by
  rw [scope_eq, scope_eq, hscope]

theorem scopeOf_eq_of_taskAt? {session : Session} {id : TaskId} {task : Task}
    (htask : session.taskAt? id = some task) : session.scopeOf id = task.scope := by
  rw [scopeOf, ← taskAt?, htask, Option.map_some, Option.getD_some]

theorem ownerOf_eq_of_taskAt? {session : Session} {id : TaskId} {task : Task}
    (htask : session.taskAt? id = some task) : session.ownerOf id = task.owner := by
  rw [ownerOf, ← taskAt?, htask, Option.bind_some]

theorem flowAt?_eq_some_iff {session : Session} {id : TaskId} {flow : Flow} :
    session.flowAt? id = some flow ↔
      ∃ task, session.taskAt? id = some task ∧ task.flow? = some flow :=
  Option.bind_eq_some_iff

theorem taskAt?_lt {session : Session} {id : TaskId} {task : Task}
    (htask : session.taskAt? id = some task) : id.index < session.tasks.size :=
  (Array.getElem?_eq_some_iff.mp htask).1

theorem scopeAt?_lt {session : Session} {id : ScopeId} {scope : Scope}
    (hscope : session.scopeAt? id = some scope) : id.index < session.scopes.size :=
  (Array.getElem?_eq_some_iff.mp hscope).1

/-! ## Changing a scope -/

/-- Changing a scope changes the scopes only. -/
@[simp] theorem modifyScope_others (session : Session) (id : ScopeId) (change : Scope → Scope) :
    (session.modifyScope id change).tasks = session.tasks ∧
      (session.modifyScope id change).repository = session.repository ∧
      (session.modifyScope id change).settings = session.settings ∧
      (session.modifyScope id change).root = session.root ∧
      (session.modifyScope id change).active = session.active ∧
      (session.modifyScope id change).history = session.history ∧
      (session.modifyScope id change).redirectedTo = session.redirectedTo ∧
      (session.modifyScope id change).events = session.events ∧
      (session.modifyScope id change).scopes.size = session.scopes.size := by
  simp [modifyScope]

@[simp] theorem taskAt?_modifyScope (session : Session) (id : ScopeId) (change : Scope → Scope)
    (other : TaskId) : (session.modifyScope id change).taskAt? other = session.taskAt? other := rfl

@[simp] theorem flowAt?_modifyScope (session : Session) (id : ScopeId) (change : Scope → Scope)
    (other : TaskId) : (session.modifyScope id change).flowAt? other = session.flowAt? other := rfl

theorem scopeAt?_modifyScope (session : Session) (id : ScopeId) (change : Scope → Scope)
    (other : ScopeId) :
    (session.modifyScope id change).scopeAt? other =
      if id = other then (session.scopeAt? other).map change else session.scopeAt? other := by
  simp only [scopeAt?, modifyScope, Array.getElem?_modify, ScopeId.index_inj]

@[simp] theorem scopeAt?_modifyScope_self (session : Session) (id : ScopeId)
    (change : Scope → Scope) :
    (session.modifyScope id change).scopeAt? id = (session.scopeAt? id).map change := by
  simp [scopeAt?_modifyScope]

theorem scopeAt?_modifyScope_of_ne (session : Session) {id other : ScopeId}
    (change : Scope → Scope) (hne : id ≠ other) :
    (session.modifyScope id change).scopeAt? other = session.scopeAt? other := by
  simp [scopeAt?_modifyScope, hne]

/-! ## Changing a task -/

/-- Changing a task changes the tasks only. -/
@[simp] theorem modifyTask_others (session : Session) (id : TaskId) (change : Task → Task) :
    (session.modifyTask id change).scopes = session.scopes ∧
      (session.modifyTask id change).repository = session.repository ∧
      (session.modifyTask id change).settings = session.settings ∧
      (session.modifyTask id change).root = session.root ∧
      (session.modifyTask id change).active = session.active ∧
      (session.modifyTask id change).history = session.history ∧
      (session.modifyTask id change).redirectedTo = session.redirectedTo ∧
      (session.modifyTask id change).events = session.events ∧
      (session.modifyTask id change).tasks.size = session.tasks.size := by
  simp [modifyTask]

@[simp] theorem scopeAt?_modifyTask (session : Session) (id : TaskId) (change : Task → Task)
    (other : ScopeId) : (session.modifyTask id change).scopeAt? other = session.scopeAt? other :=
  rfl

theorem taskAt?_modifyTask (session : Session) (id : TaskId) (change : Task → Task)
    (other : TaskId) :
    (session.modifyTask id change).taskAt? other =
      if id = other then (session.taskAt? other).map change else session.taskAt? other := by
  simp only [taskAt?, modifyTask, Array.getElem?_modify, TaskId.index_inj]

theorem modifyFlow_eq (session : Session) (id : TaskId) (change : Flow → Flow) :
    session.modifyFlow id change = session.modifyTask id (Task.mapFlow change) := rfl

/-- Changing a flow changes the tasks only. -/
@[simp] theorem modifyFlow_others (session : Session) (id : TaskId) (change : Flow → Flow) :
    (session.modifyFlow id change).scopes = session.scopes ∧
      (session.modifyFlow id change).repository = session.repository ∧
      (session.modifyFlow id change).settings = session.settings ∧
      (session.modifyFlow id change).root = session.root ∧
      (session.modifyFlow id change).active = session.active ∧
      (session.modifyFlow id change).history = session.history ∧
      (session.modifyFlow id change).redirectedTo = session.redirectedTo ∧
      (session.modifyFlow id change).events = session.events ∧
      (session.modifyFlow id change).tasks.size = session.tasks.size :=
  modifyTask_others session id (Task.mapFlow change)

@[simp] theorem scopeAt?_modifyFlow (session : Session) (id : TaskId) (change : Flow → Flow)
    (other : ScopeId) : (session.modifyFlow id change).scopeAt? other = session.scopeAt? other :=
  rfl

theorem taskAt?_modifyFlow (session : Session) (id : TaskId) (change : Flow → Flow)
    (other : TaskId) :
    (session.modifyFlow id change).taskAt? other =
      if id = other then (session.taskAt? other).map (Task.mapFlow change)
      else session.taskAt? other :=
  taskAt?_modifyTask session id (Task.mapFlow change) other

theorem flowAt?_modifyFlow (session : Session) (id : TaskId) (change : Flow → Flow)
    (other : TaskId) :
    (session.modifyFlow id change).flowAt? other =
      if id = other then (session.flowAt? other).map change else session.flowAt? other := by
  simp only [flowAt?, taskAt?_modifyFlow]
  split_ifs
  · cases session.taskAt? other <;> simp
  · rfl

@[simp] theorem flowAt?_modifyFlow_self (session : Session) (id : TaskId)
    (change : Flow → Flow) :
    (session.modifyFlow id change).flowAt? id = (session.flowAt? id).map change := by
  simp [flowAt?_modifyFlow]

/-- Completing a task changes the tasks only. -/
@[simp] theorem complete_others (session : Session) (id : TaskId) :
    (session.complete id).scopes = session.scopes ∧
      (session.complete id).repository = session.repository ∧
      (session.complete id).settings = session.settings ∧
      (session.complete id).root = session.root ∧
      (session.complete id).active = session.active ∧
      (session.complete id).history = session.history ∧
      (session.complete id).redirectedTo = session.redirectedTo ∧
      (session.complete id).events = session.events ∧
      (session.complete id).tasks.size = session.tasks.size :=
  modifyTask_others session id _

@[simp] theorem scopeAt?_complete (session : Session) (id : TaskId) (other : ScopeId) :
    (session.complete id).scopeAt? other = session.scopeAt? other := rfl

theorem taskAt?_complete (session : Session) (id other : TaskId) :
    (session.complete id).taskAt? other =
      if id = other then (session.taskAt? other).map ({ · with complete := true })
      else session.taskAt? other :=
  taskAt?_modifyTask session id _ other

@[simp] theorem flowAt?_complete (session : Session) (id other : TaskId) :
    (session.complete id).flowAt? other = session.flowAt? other := by
  simp only [flowAt?, taskAt?_complete]
  split_ifs
  · cases session.taskAt? other <;> rfl
  · rfl

/-! ## Emitting, opening and closing -/

/-- Emitting changes the events only. -/
@[simp] theorem emit_others (session : Session) (event : Event) :
    (session.emit event).scopes = session.scopes ∧
      (session.emit event).tasks = session.tasks ∧
      (session.emit event).repository = session.repository ∧
      (session.emit event).settings = session.settings ∧
      (session.emit event).root = session.root ∧
      (session.emit event).active = session.active ∧
      (session.emit event).history = session.history ∧
      (session.emit event).redirectedTo = session.redirectedTo ∧
      (session.emit event).events = session.events.push event := by
  simp [emit]

@[simp] theorem taskAt?_emit (session : Session) (event : Event) (id : TaskId) :
    (session.emit event).taskAt? id = session.taskAt? id := rfl

@[simp] theorem flowAt?_emit (session : Session) (event : Event) (id : TaskId) :
    (session.emit event).flowAt? id = session.flowAt? id := rfl

@[simp] theorem scopeAt?_emit (session : Session) (event : Event) (id : ScopeId) :
    (session.emit event).scopeAt? id = session.scopeAt? id := rfl

/-- Opening a scope changes the scopes only. -/
@[simp] theorem openScope_others (session : Session) (state : Value) (parent : Option ScopeId) :
    (session.openScope state parent).tasks = session.tasks ∧
      (session.openScope state parent).repository = session.repository ∧
      (session.openScope state parent).settings = session.settings ∧
      (session.openScope state parent).root = session.root ∧
      (session.openScope state parent).active = session.active ∧
      (session.openScope state parent).history = session.history ∧
      (session.openScope state parent).redirectedTo = session.redirectedTo ∧
      (session.openScope state parent).events = session.events ∧
      (session.openScope state parent).scopes.size = session.scopes.size + 1 := by
  simp [openScope]

@[simp] theorem taskAt?_openScope (session : Session) (state : Value) (parent : Option ScopeId)
    (id : TaskId) : (session.openScope state parent).taskAt? id = session.taskAt? id := rfl

@[simp] theorem flowAt?_openScope (session : Session) (state : Value) (parent : Option ScopeId)
    (id : TaskId) : (session.openScope state parent).flowAt? id = session.flowAt? id := rfl

theorem scopeAt?_openScope (session : Session) (state : Value) (parent : Option ScopeId)
    (id : ScopeId) :
    (session.openScope state parent).scopeAt? id =
      if id = session.nextScope then some (.opened state parent) else session.scopeAt? id := by
  simp only [scopeAt?, openScope, Array.getElem?_push, nextScope, ← ScopeId.index_inj]

/-- Closing a scope changes the scopes only. -/
@[simp] theorem closeScope_others (session : Session) (id : ScopeId) :
    (session.closeScope id).tasks = session.tasks ∧
      (session.closeScope id).repository = session.repository ∧
      (session.closeScope id).settings = session.settings ∧
      (session.closeScope id).root = session.root ∧
      (session.closeScope id).active = session.active ∧
      (session.closeScope id).history = session.history ∧
      (session.closeScope id).redirectedTo = session.redirectedTo ∧
      (session.closeScope id).events = session.events ∧
      (session.closeScope id).scopes.size = session.scopes.size :=
  modifyScope_others session id _

@[simp] theorem taskAt?_closeScope (session : Session) (id : ScopeId) (other : TaskId) :
    (session.closeScope id).taskAt? other = session.taskAt? other := rfl

@[simp] theorem flowAt?_closeScope (session : Session) (id : ScopeId) (other : TaskId) :
    (session.closeScope id).flowAt? other = session.flowAt? other := rfl

theorem scopeAt?_closeScope (session : Session) (id other : ScopeId) :
    (session.closeScope id).scopeAt? other =
      if id = other then (session.scopeAt? other).map (·.release (id == session.rootScope))
      else session.scopeAt? other :=
  scopeAt?_modifyScope session id _ other

theorem scopeAt?_closeScope_of_ne (session : Session) {id other : ScopeId} (hne : id ≠ other) :
    (session.closeScope id).scopeAt? other = session.scopeAt? other := by
  simp [scopeAt?_closeScope, hne]

def closeAll (session : Session) (scopes : List ScopeId) : Session :=
  scopes.foldl closeScope session

theorem closeAll_append (session : Session) (first second : List ScopeId) :
    session.closeAll (first ++ second) = (session.closeAll first).closeAll second :=
  List.foldl_append

/-- Closing scopes changes the scopes only. -/
@[simp] theorem closeAll_others (session : Session) (scopes : List ScopeId) :
    (session.closeAll scopes).tasks = session.tasks ∧
      (session.closeAll scopes).repository = session.repository ∧
      (session.closeAll scopes).settings = session.settings ∧
      (session.closeAll scopes).root = session.root ∧
      (session.closeAll scopes).active = session.active ∧
      (session.closeAll scopes).history = session.history ∧
      (session.closeAll scopes).redirectedTo = session.redirectedTo ∧
      (session.closeAll scopes).events = session.events ∧
      (session.closeAll scopes).scopes.size = session.scopes.size := by
  induction scopes generalizing session with
  | nil => simp [closeAll]
  | cons scope scopes ih => simpa [closeAll] using ih (session.closeScope scope)

/-- Closing scopes releases exactly these. -/
theorem scopeAt?_closeAll (session : Session) (scopes : List ScopeId) (scope : ScopeId) :
    (session.closeAll scopes).scopeAt? scope =
      if scope ∈ scopes then
        (session.scopeAt? scope).map (·.release (scope == session.rootScope))
      else session.scopeAt? scope := by
  induction scopes generalizing session with
  | nil => rfl
  | cons first scopes ih =>
      have hrest := ih (session.closeScope first)
      have hroot : (session.closeScope first).rootScope = session.rootScope := rfl
      rw [hroot, scopeAt?_closeScope] at hrest
      rw [closeAll, List.foldl_cons]
      refine hrest.trans ?_
      by_cases hself : first = scope
      · subst hself
        rw [if_pos rfl, if_pos List.mem_cons_self, Option.map_map]
        split_ifs
        · congr 1
          funext found
          exact Scope.release_release found _
        · rfl
      · have hmem : scope ∈ first :: scopes ↔ scope ∈ scopes := by
          simp [Ne.symm hself]
        rw [if_neg hself]
        simp only [hmem]

/-- Opening a task changes the tasks, and the binding of its scope. -/
@[simp] theorem openTask_others (session : Session) (task : Task) :
    (session.openTask task).repository = session.repository ∧
      (session.openTask task).settings = session.settings ∧
      (session.openTask task).root = session.root ∧
      (session.openTask task).active = session.active ∧
      (session.openTask task).history = session.history ∧
      (session.openTask task).redirectedTo = session.redirectedTo ∧
      (session.openTask task).events = session.events ∧
      (session.openTask task).tasks.size = session.tasks.size + 1 ∧
      (session.openTask task).scopes.size = session.scopes.size := by
  simp [openTask]

theorem taskAt?_openTask (session : Session) (task : Task) (id : TaskId) :
    (session.openTask task).taskAt? id =
      if id = session.nextTask then some task else session.taskAt? id := by
  simp only [taskAt?, openTask, modifyScope_others, Array.getElem?_push, nextTask,
    ← TaskId.index_inj]

theorem flowAt?_openTask (session : Session) (task : Task) (id : TaskId) :
    (session.openTask task).flowAt? id =
      if id = session.nextTask then task.flow? else session.flowAt? id := by
  simp only [flowAt?, taskAt?_openTask]
  split_ifs <;> rfl

theorem scopeAt?_openTask (session : Session) (task : Task) (id : ScopeId) :
    (session.openTask task).scopeAt? id =
      if task.scope = id then (session.scopeAt? id).map (·.bind session.nextTask task.isFlow)
      else session.scopeAt? id :=
  scopeAt?_modifyScope _ task.scope _ id

end Session

end Workflow
