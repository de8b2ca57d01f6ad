import Workflow.Proofs.Session.Acts
import Workflow.Proofs.Session.Turn

/-!
# What a session never takes back

A session keeps every task and every scope that it ever opened.  Of a task, its name, its scope, its
owner and what it was opened as stay the same, `Task.skeleton`, and once complete it stays complete;
of a scope the binding stays the same.  `Session.Grows` says this of two sessions, and every move
makes a session grow.
-/

namespace Workflow

/-- What a flow was opened as, without how far it has come. -/
def Flow.skeleton (flow : Flow) : Flow where
  definition := flow.definition
  repetition := flow.repetition
  settings := flow.settings
  items := flow.items

theorem Flow.of_skeleton {flow other : Flow} (h : flow.skeleton = other.skeleton) :
    flow.definition = other.definition ∧ flow.repetition = other.repetition ∧
      flow.settings = other.settings ∧ flow.items = other.items := by
  simpa [Flow.skeleton] using h

/-- What a task was opened as. What is filled in and how far a flow has come are left out. -/
def Activity.skeleton : Activity → Activity
  | .screen built => .screen built.skeleton
  | .flow running => .flow running.skeleton
  | other => other

/-- What stays of a task for as long as its session lives. -/
def Task.skeleton (task : Task) : Task :=
  { task with complete := false, activity := task.activity.skeleton }

namespace Task

theorem name_of_skeleton {task other : Task} (h : task.skeleton = other.skeleton) :
    task.name = other.name := by
  simpa [skeleton] using congrArg Task.name h

theorem scope_of_skeleton {task other : Task} (h : task.skeleton = other.skeleton) :
    task.scope = other.scope := by
  simpa [skeleton] using congrArg Task.scope h

theorem owner_of_skeleton {task other : Task} (h : task.skeleton = other.skeleton) :
    task.owner = other.owner := by
  simpa [skeleton] using congrArg Task.owner h

theorem activity_of_skeleton {task other : Task} (h : task.skeleton = other.skeleton) :
    task.activity.skeleton = other.activity.skeleton := by
  simpa [skeleton] using congrArg Task.activity h

theorem flow?_skeleton (task : Task) : task.skeleton.flow? = task.flow?.map Flow.skeleton := by
  obtain ⟨name, scope, owner, complete, activity⟩ := task
  cases activity <;> rfl

theorem flow?_of_skeleton {task other : Task} (h : task.skeleton = other.skeleton) :
    task.flow?.map Flow.skeleton = other.flow?.map Flow.skeleton := by
  rw [← flow?_skeleton, ← flow?_skeleton, h]

theorem isFlow_of_skeleton {task other : Task} (h : task.skeleton = other.skeleton) :
    task.isFlow = other.isFlow := by
  have := congrArg Option.isSome (flow?_of_skeleton h)
  simpa [isFlow] using this

theorem skeleton_mapFlow {change : Flow → Flow}
    (hchange : ∀ flow, (change flow).skeleton = flow.skeleton) (task : Task) :
    (task.mapFlow change).skeleton = task.skeleton := by
  obtain ⟨name, scope, owner, complete, activity⟩ := task
  cases activity with
  | flow flow => simp [mapFlow, skeleton, Activity.skeleton, hchange]
  | _ => rfl

theorem skeleton_setScreen {task : Task} {old new : Screen} (hscreen : task.activity = .screen old)
    (hkept : new.skeleton = old.skeleton) :
    ({ task with activity := .screen new } : Task).skeleton = task.skeleton := by
  simp [skeleton, hscreen, Activity.skeleton, hkept]

end Task

namespace Session

/-- The second session holds all that the first one holds, as far as that never changes. -/
structure Grows (s s' : Session) : Prop where
  repository : s'.repository = s.repository
  root : s'.root = s.root
  host : s'.settings.host = s.settings.host
  limit : s'.settings.maxLoopPasses = s.settings.maxLoopPasses
  recording : s'.settings.recordHistory = s.settings.recordHistory
  breakpoints : s.settings.breakpoints ⊆ s'.settings.breakpoints
  tasks : ∀ {id task}, s.taskAt? id = some task → ∃ task', s'.taskAt? id = some task' ∧
    task'.skeleton = task.skeleton ∧ (task.complete = true → task'.complete = true)
  scopes : ∀ {id scope}, s.scopeAt? id = some scope → ∃ scope', s'.scopeAt? id = some scope' ∧
    scope'.binding = scope.binding

/-- A change to other parts of a session than its tasks and scopes makes it grow. -/
theorem Grows.of_same {s s' : Session} (htasks : s'.tasks = s.tasks)
    (hscopes : s'.scopes = s.scopes) (hrepository : s'.repository = s.repository)
    (hroot : s'.root = s.root) (hsettings : s'.settings = s.settings) : Grows s s' where
  repository := hrepository
  root := hroot
  host := by rw [hsettings]
  limit := by rw [hsettings]
  recording := by rw [hsettings]
  breakpoints := by rw [hsettings]; exact List.Subset.refl _
  tasks := fun {id task} h => ⟨task, by rw [taskAt?, htasks]; exact h, rfl, fun h => h⟩
  scopes := fun {id scope} h => ⟨scope, by rw [scopeAt?, hscopes]; exact h, rfl⟩

theorem Grows.refl (s : Session) : Grows s s :=
  .of_same rfl rfl rfl rfl rfl

theorem Grows.trans {s₁ s₂ s₃ : Session} (hfirst : Grows s₁ s₂) (hsecond : Grows s₂ s₃) :
    Grows s₁ s₃ where
  repository := hsecond.repository.trans hfirst.repository
  root := hsecond.root.trans hfirst.root
  host := hsecond.host.trans hfirst.host
  limit := hsecond.limit.trans hfirst.limit
  recording := hsecond.recording.trans hfirst.recording
  breakpoints := List.Subset.trans hfirst.breakpoints hsecond.breakpoints
  tasks := by
    intro id task h
    obtain ⟨task₂, h₂, hskeleton₂, hcomplete₂⟩ := hfirst.tasks h
    obtain ⟨task₃, h₃, hskeleton₃, hcomplete₃⟩ := hsecond.tasks h₂
    exact ⟨task₃, h₃, hskeleton₃.trans hskeleton₂, fun h => hcomplete₃ (hcomplete₂ h)⟩
  scopes := by
    intro id scope h
    obtain ⟨scope₂, h₂, hbinding₂⟩ := hfirst.scopes h
    obtain ⟨scope₃, h₃, hbinding₃⟩ := hsecond.scopes h₂
    exact ⟨scope₃, h₃, hbinding₃.trans hbinding₂⟩

/-- A session that has grown judges as before. -/
theorem Grows.judge {s s' : Session} (hgrows : Grows s s') (state : Value) :
    s'.judge state = s.judge state := by
  rw [Session.judge, hgrows.repository, hgrows.host]
  rfl

/-- A flow stays the flow that it was opened as. -/
theorem Grows.flowAt? {s s' : Session} (hgrows : Grows s s') {id : TaskId} {flow : Flow}
    (hflow : s.flowAt? id = some flow) :
    ∃ flow', s'.flowAt? id = some flow' ∧ flow'.skeleton = flow.skeleton := by
  obtain ⟨task, htask, hruns⟩ := flowAt?_eq_some_iff.mp hflow
  obtain ⟨task', htask', hskeleton, -⟩ := hgrows.tasks htask
  have hmapped := Task.flow?_of_skeleton hskeleton
  rw [hruns] at hmapped
  obtain ⟨flow', hruns', hsame⟩ := Option.map_eq_some_iff.mp hmapped
  exact ⟨flow', flowAt?_eq_some_iff.mpr ⟨task', htask', hruns'⟩, hsame⟩

theorem Grows.modifyScope {s s' : Session} (hgrows : Grows s s') (id : ScopeId)
    {change : Scope → Scope} (hchange : Scope.KeepsBinding change) :
    Grows s (s'.modifyScope id change) := by
  refine hgrows.trans ⟨rfl, rfl, rfl, rfl, rfl, List.Subset.refl _, ?_, ?_⟩
  · exact fun {_ task} h => ⟨task, h, rfl, fun h => h⟩
  · intro other scope h
    rw [scopeAt?_modifyScope, h]
    split_ifs
    · exact ⟨change scope, rfl, hchange scope⟩
    · exact ⟨scope, rfl, rfl⟩

theorem Grows.closeScope {s s' : Session} (hgrows : Grows s s') (id : ScopeId) :
    Grows s (s'.closeScope id) :=
  hgrows.modifyScope id (Scope.keepsBinding_release _)

/-- Changing a task makes a session grow if the change keeps what must stay of that task. -/
theorem Grows.modifyTask {s s' : Session} (hgrows : Grows s s') (id : TaskId)
    {change : Task → Task}
    (hchange : ∀ task, s'.taskAt? id = some task → (change task).skeleton = task.skeleton ∧
      (task.complete = true → (change task).complete = true)) :
    Grows s (s'.modifyTask id change) := by
  refine hgrows.trans ⟨rfl, rfl, rfl, rfl, rfl, List.Subset.refl _, ?_, ?_⟩
  · intro other task h
    rw [taskAt?_modifyTask, h]
    split_ifs with heq
    · subst heq
      exact ⟨change task, rfl, hchange task h⟩
    · exact ⟨task, rfl, rfl, fun h => h⟩
  · exact fun {_ scope} h => ⟨scope, h, rfl⟩

theorem Grows.modifyFlow {s s' : Session} (hgrows : Grows s s') (id : TaskId)
    {change : Flow → Flow} (hchange : ∀ flow, (change flow).skeleton = flow.skeleton) :
    Grows s (s'.modifyFlow id change) := by
  rw [modifyFlow_eq]
  refine hgrows.modifyTask id fun task _ => ⟨Task.skeleton_mapFlow hchange task, fun h => ?_⟩
  rw [(Task.mapFlow_others change task).2.2.2]
  exact h

theorem Grows.complete {s s' : Session} (hgrows : Grows s s') (id : TaskId) :
    Grows s (s'.complete id) :=
  hgrows.modifyTask id fun _ _ => ⟨rfl, fun _ => rfl⟩

theorem Grows.emit {s s' : Session} (hgrows : Grows s s') (event : Event) :
    Grows s (s'.emit event) :=
  hgrows.trans (.of_same rfl rfl rfl rfl rfl)

theorem scopeAt?_nextScope (s : Session) : s.scopeAt? s.nextScope = none := by
  simp [scopeAt?, nextScope]

theorem taskAt?_nextTask (s : Session) : s.taskAt? s.nextTask = none := by
  simp [taskAt?, nextTask]

theorem Grows.openScope {s s' : Session} (hgrows : Grows s s') (state : Value)
    (parent : Option ScopeId) : Grows s (s'.openScope state parent) := by
  refine hgrows.trans ⟨rfl, rfl, rfl, rfl, rfl, List.Subset.refl _, ?_, ?_⟩
  · exact fun {_ task} h => ⟨task, h, rfl, fun h => h⟩
  · intro other scope h
    have hne : other ≠ s'.nextScope := by
      rintro rfl
      rw [scopeAt?_nextScope] at h
      cases h
    exact ⟨scope, by rw [scopeAt?_openScope, if_neg hne, h], rfl⟩

/-- Opening a task makes a session grow that did not have the scope of the task. -/
theorem Grows.openTask {s s' : Session} (hgrows : Grows s s') (task : Task)
    (hscope : s.scopeAt? task.scope = none) : Grows s (s'.openTask task) where
  repository := hgrows.repository
  root := hgrows.root
  host := hgrows.host
  limit := hgrows.limit
  recording := hgrows.recording
  breakpoints := hgrows.breakpoints
  tasks := by
    intro id old h
    obtain ⟨task', h', hskeleton, hcomplete⟩ := hgrows.tasks h
    have hne : id ≠ s'.nextTask := by
      rintro rfl
      rw [taskAt?_nextTask] at h'
      cases h'
    exact ⟨task', by rw [taskAt?_openTask, if_neg hne, h'], hskeleton, hcomplete⟩
  scopes := by
    intro id scope h
    obtain ⟨scope', h', hbinding⟩ := hgrows.scopes h
    have hne : task.scope ≠ id := by
      rintro rfl
      rw [hscope] at h
      cases h
    exact ⟨scope', by rw [scopeAt?_openTask, if_neg hne, h'], hbinding⟩

theorem Grows.tasks_size {s s' : Session} (hgrows : Grows s s') : s.tasks.size ≤ s'.tasks.size := by
  apply Nat.le_of_not_lt
  intro hlt
  have hlast : s.taskAt? s'.nextTask = some s.tasks[s'.tasks.size] := Array.getElem?_eq_getElem hlt
  obtain ⟨task', htask', -⟩ := hgrows.tasks hlast
  exact absurd (taskAt?_lt htask') (Nat.lt_irrefl _)

/-- A task at a place that was taken before is the one that was opened there. -/
theorem Grows.exists_before {s s' : Session} (hgrows : Grows s s') {id : TaskId} {task' : Task}
    (htask' : s'.taskAt? id = some task') (hlt : id.index < s.tasks.size) :
    ∃ task, s.taskAt? id = some task ∧ task'.skeleton = task.skeleton := by
  have htask : s.taskAt? id = some s.tasks[id.index] := Array.getElem?_eq_getElem hlt
  obtain ⟨found, hfound, hskeleton, -⟩ := hgrows.tasks htask
  rw [htask'] at hfound
  cases hfound
  exact ⟨_, htask, hskeleton⟩

/-! ## Moves make a session grow -/

theorem Grows.concluded {s s' : Session} (hgrows : Grows s s') (id : TaskId) (mark : Bool) :
    Grows s (s'.concluded id mark) := by
  unfold Session.concluded
  split_ifs
  · exact hgrows.modifyFlow id fun _ => rfl
  · exact hgrows

theorem grows_attempt (s : Session) (id : TaskId) (flow : Flow) :
    Grows s (s.attempt id flow) := by
  refine .openScope ?_ (s.ambient id flow) (some (s.around id flow))
  exact .modifyFlow (.refl s) id fun _ => rfl

theorem effect_grows {s s' : Session} {task : Task} (heffect : s.effect task = .ok s') :
    Grows s s' := by
  unfold effect at heffect
  split at heffect
  · next instructions _ =>
      cases hpatch : Instruction.chainedPatch instructions (s.stateOf task) with
      | error error =>
          rw [hpatch] at heffect
          cases heffect
      | ok patch =>
          rw [hpatch] at heffect
          cases heffect
          exact .modifyScope (.refl s) _ (Scope.keepsBinding_mergeResult patch)
  · cases heffect
    exact .of_same rfl rfl rfl rfl rfl
  · split_ifs at heffect
    · cases heffect
      split
      · exact .modifyFlow (.refl s) _ fun _ => rfl
      · exact .refl s
    · cases heffect
      exact .emit (.refl s) _
  · cases heffect
    split_ifs
    · exact .refl s
    · exact .emit (.refl s) _
  · cases heffect
    exact .refl s
  · cases heffect
    exact .refl s

theorem runChild_grows {s s' : Session} {id : TaskId} {child : Child} {task : Task}
    (hrun : s.runChild id child task = (.ok (), s')) : Grows s s' := by
  unfold runChild at hrun
  split_ifs at hrun
  · cases hrun
    exact .refl s
  · split at hrun
    · next ran heffect =>
        cases hrun
        exact .complete (effect_grows heffect) child.task
    · cases hrun

theorem Grows.foldChild {s s' : Session} (hgrows : Grows s s') (id : TaskId) (child : Child) :
    Grows s (s'.foldChild id child) := by
  unfold Session.foldChild
  dsimp only
  refine .modifyFlow (.closeScope ?_ _) _ fun _ => rfl
  split
  · exact hgrows.modifyScope _
      ((Scope.keepsBinding_mergeResult _).comp (Scope.keepsBinding_mergeState _))
  · exact hgrows.modifyScope _ (Scope.keepsBinding_mergeState _)

theorem leave_grows (s : Session) (scope : ScopeId) : Grows s (s.leave scope).2 := by
  have hleft : Grows s { s with active := s.active.pop } := .of_same rfl rfl rfl rfl rfl
  unfold leave
  dsimp only
  split_ifs
  · exact hleft.closeScope scope
  · exact hleft

theorem Turned.grows {s s' : Session} {result : Except Error Turn}
    (hturned : s.Turned result s') : Grows s s' := by
  cases hturned with
  | idle | stuck | waiting => exact .refl s
  | unbound | entered => exact .of_same rfl rfl rfl rfl rfl
  | @left scope _ _ _ _ _ _ _ _ _ hleave =>
      have hgrows := leave_grows s scope
      rwa [hleave] at hgrows
  | interrupted => exact .modifyFlow (.refl s) _ fun _ => rfl
  | settled _ _ _ hrun => exact (runChild_grows hrun).foldChild _ _
  | dropped => exact .modifyFlow (.closeScope (.refl s) _) _ fun _ => rfl
  | skipped | unopened => exact .closeScope (grows_attempt s _ _) _
  | opened =>
      exact .modifyFlow (.openTask (grows_attempt s _ _) _ (scopeAt?_nextScope s)) _ fun _ => rfl
  | passOpened => exact .modifyFlow (.openScope (.refl s) _ _) _ fun _ => rfl
  | passEnded =>
      exact .modifyFlow (.closeScope (.modifyScope (.refl s) _ (Scope.keepsBinding_mergeState _))
        _) _ fun _ => rfl
  | published =>
      exact .complete (.modifyScope (.concluded (.refl s) _ _) _
        (Scope.keepsBinding_mergeResult _)) _
  | unpublished => exact .concluded (.refl s) _ true

theorem Grows.closeAll {s s' : Session} (hgrows : Grows s s') (scopes : List ScopeId) :
    Grows s (s'.closeAll scopes) := by
  induction scopes generalizing s' with
  | nil => exact hgrows
  | cons scope scopes ih => exact ih (hgrows.closeScope scope)

theorem Grows.closeInside {s s' : Session} (hgrows : Grows s s') (id : TaskId) :
    Grows s (s'.closeInside id) := by
  rw [closeInside_eq]
  exact hgrows.closeAll _

theorem Grows.abandon {s s' : Session} (hgrows : Grows s s') (scope : ScopeId) :
    Grows s (s'.abandon scope) := by
  have hleft : Grows s { s' with active := s'.active.pop } :=
    hgrows.trans (.of_same rfl rfl rfl rfl rfl)
  unfold Session.abandon
  dsimp only
  refine .closeScope ?_ scope
  split
  · exact hleft.closeInside _
  · exact hleft

theorem Grows.unwindTo {s : Session} (target : ScopeId) (scopes : List ScopeId) :
    ∀ {s' : Session}, Grows s s' → Grows s (unwindTo target scopes s') := by
  induction scopes with
  | nil => exact fun hgrows => hgrows
  | cons scope scopes ih =>
      intro s' hgrows
      unfold Session.unwindTo
      split_ifs
      · exact hgrows
      · exact ih (hgrows.abandon scope)

theorem Grows.reopenPass {s s' : Session} (hgrows : Grows s s') (target : ScopeId)
    (pass : Option (Value × Value)) : Grows s (s'.reopenPass target pass).2 := by
  unfold Session.reopenPass
  split
  · exact hgrows
  · exact .modifyScope (hgrows.openScope _ _) _ (Scope.keepsBinding_mergeResult _)

theorem grows_restore (s : Session) (target : ScopeId) (entry : Visit) :
    Grows s (s.restore target entry) := by
  have hreopened : Grows s (s.reopened target entry) :=
    .modifyScope (.closeInside (.unwindTo target _ (.refl s)) _) _ (Scope.keepsBinding_reopen _ _)
  have hopened := hreopened.reopenPass target entry.pass
  have hrewound : Grows s (s.rewound target entry) := hopened.modifyFlow entry.flow fun _ => rfl
  exact hrewound.trans (.of_same rfl rfl rfl rfl rfl)

theorem Act.grows {s s' : Session} {id : TaskId} (hact : Act id s s') : Grows s s' := by
  cases hact with
  | screenSet new htask hscreen hkept =>
      apply Grows.modifyTask (.refl s)
      intro task h
      rw [htask] at h
      cases h
      exact ⟨Task.skeleton_setScreen hscreen hkept, fun h => h⟩
  | resultMerged patch => exact .modifyScope (.refl s) _ (Scope.keepsBinding_mergeResult patch)
  | patched patch =>
      exact .modifyScope (.refl s) _
        ((Scope.keepsBinding_mergeResult patch).comp (Scope.keepsBinding_mergeState patch))
  | completed => exact .complete (.refl s) id
  | recorded | refused => exact .of_same rfl rfl rfl rfl rfl
  | returned => exact .emit (grows_restore s _ _) _

theorem grows_setBreakpoint (s : Session) (name : String) : Grows s (s.setBreakpoint name) where
  repository := rfl
  root := rfl
  host := by
    simp only [setBreakpoint, SessionSettings.insertBreakpoint]
    split_ifs <;> rfl
  limit := by
    simp only [setBreakpoint, SessionSettings.insertBreakpoint]
    split_ifs <;> rfl
  recording := by
    simp only [setBreakpoint, SessionSettings.insertBreakpoint]
    split_ifs <;> rfl
  breakpoints := by
    simp only [setBreakpoint, SessionSettings.insertBreakpoint]
    split_ifs
    · exact List.Subset.refl _
    · exact List.subset_append_left _ _
  tasks := fun {_ task} h => ⟨task, h, rfl, fun h => h⟩
  scopes := fun {_ scope} h => ⟨scope, h, rfl⟩

/-- Two sessions that differ at most in the events that wait and in the breakpoints. -/
structure Alike (s s' : Session) : Prop where
  grows : Grows s s'
  tasks : s'.tasks = s.tasks
  scopes : s'.scopes = s.scopes
  active : s'.active = s.active
  history : s'.history = s.history

theorem alike_setBreakpoint (s : Session) (name : String) : Alike s (s.setBreakpoint name) :=
  ⟨grows_setBreakpoint s name, rfl, rfl, rfl, rfl⟩

theorem alike_requeue (s : Session) (events : Array Event) : Alike s { s with events } :=
  ⟨.of_same rfl rfl rfl rfl rfl, rfl, rfl, rfl, rfl⟩

theorem Move.grows {s s' : Session} (hmove : Move s s') : Grows s s' := by
  cases hmove with
  | turn hturn => exact (turned hturn).grows
  | act hact => exact hact.grows
  | breakpoint name => exact grows_setBreakpoint s name

theorem Moves.grows {s s' : Session} (hmoves : Relation.ReflTransGen Move s s') :
    Grows s s' := by
  induction hmoves with
  | refl => exact .refl s
  | tail _ hmove ih => exact ih.trans hmove.grows

theorem Run.grows {s s' : Session} (hrun : Run s s') : Grows s s' :=
  Moves.grows hrun.moves

theorem Drives.grows {s s' : Session} (hdrives : s.Drives s') : Grows s s' := by
  induction hdrives with
  | refl => exact .refl s
  | @tail r _ _ hdrive ih =>
      cases hdrive with
      | operated hstep => exact ih.trans (Moves.grows hstep.moves)
      | requeued events => exact ih.trans (alike_requeue r events).grows

end Session

end Workflow
