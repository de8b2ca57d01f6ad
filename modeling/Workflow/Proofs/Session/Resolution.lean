import Workflow.Proofs.Failures.Screens
import Workflow.Proofs.Session.Soundness

/-!
# Names in a running session

A session runs a repository in which every reference is declared, and each of its tasks was opened
as its declaration says.  So the names that the tasks of a session refer to are declared as well,
`Session.Resolved`, and this stays so: what a task was opened as does not change.
-/

namespace Workflow

/-- The validators that a task goes on to ask are declared. -/
def Activity.Resolved (repository : Repository) : Activity → Prop
  | .screen built => built.Resolved repository
  | .flow running => repository.Judges running.settings.conditions
  | .remoteCall _ | .update _ | .redirect _ | .event _ => True

/-- Whether a task is resolved was settled when it was opened. -/
theorem Activity.Resolved.of_skeleton {repository : Repository} {activity other : Activity}
    (hresolved : activity.Resolved repository) (hskeleton : other.skeleton = activity.skeleton) :
    other.Resolved repository := by
  cases other with
  | screen built =>
      cases activity <;> simp only [Activity.skeleton, reduceCtorEq] at hskeleton
      exact Screen.Resolved.of_skeleton hresolved (Activity.screen.inj hskeleton)
  | flow running =>
      cases activity <;> simp only [Activity.skeleton, reduceCtorEq] at hskeleton
      have hsettings := (Flow.of_skeleton (Activity.flow.inj hskeleton)).2.2.1
      rw [Resolved, hsettings]
      exact hresolved
  | _ => exact trivial

theorem FlowSettings.judges_overriddenBy {repository : Repository} {settings inline : FlowSettings}
    (hsettings : repository.Judges settings.conditions)
    (hinline : repository.Judges inline.conditions) :
    repository.Judges (settings.overriddenBy inline).conditions := by
  rw [overriddenBy]
  dsimp only
  split
  · exact hsettings
  · exact hinline

namespace Repository

variable {repository : Repository} {decl : TaskDecl} {state : Value}

/-- The flow that a task names is declared, and its settings name declared validators. -/
theorem Complete.exists_flow (hcomplete : repository.Complete) {repetition : Repetition}
    {inline : Option FlowSettings} (hdecl : repository.CompleteTask decl)
    (haction : decl.action = .flow repetition inline) :
    ∃ settings : FlowSettings, repository.Judges settings.conditions ∧
      repository.activity decl state =
        (Flow.start decl.name repetition settings state).map .flow := by
  have hnamed := hdecl.action
  rw [haction] at hnamed
  obtain ⟨hflow, hconditions⟩ := hnamed
  obtain ⟨declared, hdeclared⟩ := Option.isSome_iff_exists.mp hflow
  have hsettings := (hcomplete.flows _ (Keyed.mem_of_get? hdeclared)).conditions
  cases inline with
  | none =>
      refine ⟨declared.settings, hsettings, ?_⟩
      rw [activity, haction]
      dsimp only
      rw [hdeclared]
  | some inline =>
      refine ⟨declared.settings.overriddenBy inline,
        FlowSettings.judges_overriddenBy hsettings hconditions, ?_⟩
      rw [activity, haction]
      dsimp only
      rw [hdeclared]

/-- What a complete declaration gives is resolved. -/
theorem Complete.resolved_activity (hcomplete : repository.Complete)
    (hdecl : repository.CompleteTask decl) {built : Activity}
    (hbuilt : repository.activity decl state = .ok built) : built.Resolved repository := by
  cases haction : decl.action with
  | screen rows =>
      have hrows := hdecl.action
      rw [haction] at hrows
      obtain ⟨screen, hscreen, hresolved⟩ := Screen.exists_ofRows hcomplete decl.name hrows
      rw [activity, haction] at hbuilt
      dsimp only at hbuilt
      rw [hscreen] at hbuilt
      cases hbuilt
      exact hresolved
  | flow repetition inline =>
      obtain ⟨settings, hsettings, hactivity⟩ := hcomplete.exists_flow hdecl haction
      rw [hactivity] at hbuilt
      obtain ⟨flow, hstart, rfl⟩ := exists_of_map_eq_ok hbuilt
      rw [Session.Flow.start_eq hstart]
      exact hsettings
  | remoteCall call =>
      rw [activity, haction] at hbuilt
      obtain ⟨call, -, rfl⟩ := exists_of_map_eq_ok hbuilt
      exact trivial
  | update | redirect | event =>
      rw [activity, haction] at hbuilt
      cases hbuilt
      exact trivial

/-- A complete declaration can be opened, but for its paths and for the items of a loop. -/
theorem Complete.failsAs_activity (hcomplete : repository.Complete)
    (hdecl : repository.CompleteTask decl) :
    FailsAs Error.stopsStep (repository.activity decl state) := by
  cases haction : decl.action with
  | screen rows =>
      have hrows := hdecl.action
      rw [haction] at hrows
      obtain ⟨screen, hscreen, -⟩ := Screen.exists_ofRows hcomplete decl.name hrows
      rw [activity, haction]
      dsimp only
      rw [hscreen]
      exact .ok _
  | flow repetition inline =>
      obtain ⟨settings, -, hactivity⟩ := hcomplete.exists_flow hdecl haction
      rw [hactivity]
      exact (Flow.failsAs_start decl.name repetition settings state).map _
  | remoteCall call =>
      rw [activity, haction]
      exact ((RemoteCall.failsAs_ofDecl call state).mono Error.stopsStep_of_ofPath).map _
  | update | redirect | event =>
      rw [activity, haction]
      exact .ok _

end Repository

namespace Session

/-- What the document and the tasks of a session refer to is declared. -/
structure Resolved (s : Session) : Prop where
  repository : s.repository.Complete
  tasks : ∀ ⦃id task⦄, s.taskAt? id = some task → task.activity.Resolved s.repository

section

variable {s s' : Session}

/-- A session that opens no other tasks has the same activities, but for what is filled in and for
how far flows have come. -/
theorem Grows.activities (hgrows : Grows s s') (hsize : s'.tasks.size = s.tasks.size)
    {A : Activity → Prop} (hkept : ∀ {activity other : Activity}, A activity →
      other.skeleton = activity.skeleton → A other)
    (htasks : ∀ ⦃id task⦄, s.taskAt? id = some task → A task.activity) ⦃id : TaskId⦄ ⦃task : Task⦄
    (htask : s'.taskAt? id = some task) : A task.activity := by
  have hlt : id.index < s.tasks.size := hsize ▸ taskAt?_lt htask
  obtain ⟨before, hbefore, hskeleton⟩ := hgrows.exists_before htask hlt
  exact hkept (htasks hbefore) (Task.activity_of_skeleton hskeleton)

/-- The declaration that a flow is about to open is one of the document. -/
theorem AtStep.exists_declared {scope : ScopeId} {id : TaskId} {flow : Flow} {decl : TaskDecl}
    (hat : s.AtStep scope id flow (.openTask decl)) :
    ∃ pair ∈ s.repository.flows, decl ∈ pair.2.tasks := by
  obtain ⟨declared, hdeclared, hnext⟩ := hat.next
  obtain ⟨-, -, hdecl⟩ := Flow.nextStep_eq_openTask_iff.mp hnext
  exact ⟨_, Keyed.mem_of_get? hdeclared, List.mem_of_getElem? hdecl⟩

/-- What holds of what the declarations of a document give holds of all tasks after a turn. -/
theorem Turned.activities {result : Except Error Turn} (hturned : s.Turned result s')
    {A : Activity → Prop} (hkept : ∀ {activity other : Activity}, A activity →
      other.skeleton = activity.skeleton → A other)
    (hbuilt : ∀ {pair : String × FlowDecl} {decl : TaskDecl} {state : Value} {activity : Activity},
      pair ∈ s.repository.flows → decl ∈ pair.2.tasks →
        s.repository.activity decl state = .ok activity → A activity)
    (htasks : ∀ ⦃id task⦄, s.taskAt? id = some task → A task.activity) ⦃id : TaskId⦄ ⦃task : Task⦄
    (htask : s'.taskAt? id = some task) : A task.activity := by
  have hgrows := hturned.grows
  rcases hturned.tasks_size with
    hsize | ⟨scope, owner, flow, decl, activity, hat, hactivity, -, rfl⟩
  · exact hgrows.activities hsize hkept htasks htask
  · by_cases hnew : id = s.nextTask
    · obtain ⟨working, hwork⟩ := hat.working
      rw [taskAt?_openChild s (taskAt?_lt hwork.here), if_pos hnew] at htask
      cases htask
      obtain ⟨pair, hmem, hdecl⟩ := hat.exists_declared
      exact hbuilt hmem hdecl hactivity
    · have hlt : id.index < s.tasks.size := by
        have hbelow := taskAt?_lt htask
        have hsize : (s.openChild owner flow decl activity).tasks.size = s.tasks.size + 1 :=
          (openChild_others s owner flow decl activity).2.2.2.2.2.2.2.1
        have hne : id.index ≠ s.tasks.size := fun h => hnew (by cases id; cases h; rfl)
        omega
      obtain ⟨before, hbefore, hskeleton⟩ := hgrows.exists_before htask hlt
      exact hkept (htasks hbefore) (Task.activity_of_skeleton hskeleton)

/-- A session stays resolved if it opens no other tasks. -/
theorem Resolved.of_grows (hresolved : s.Resolved) (hgrows : Grows s s')
    (hsize : s'.tasks.size = s.tasks.size) : s'.Resolved where
  repository := hgrows.repository ▸ hresolved.repository
  tasks := by
    rw [hgrows.repository]
    exact hgrows.activities hsize Activity.Resolved.of_skeleton hresolved.tasks

/-- The declaration that a flow is about to open is complete. -/
theorem AtStep.completeTask {scope : ScopeId} {id : TaskId} {flow : Flow} {decl : TaskDecl}
    (hat : s.AtStep scope id flow (.openTask decl)) (hcomplete : s.repository.Complete) :
    s.repository.CompleteTask decl := by
  obtain ⟨pair, hmem, hdecl⟩ := hat.exists_declared
  exact (hcomplete.flows pair hmem).tasks decl hdecl

theorem Turned.resolved {result : Except Error Turn} (hturned : s.Turned result s')
    (hresolved : s.Resolved) : s'.Resolved where
  repository := hturned.grows.repository ▸ hresolved.repository
  tasks := by
    rw [hturned.grows.repository]
    refine hturned.activities Activity.Resolved.of_skeleton ?_ hresolved.tasks
    intro pair decl state activity hmem hdecl hactivity
    have hcomplete := hresolved.repository
    exact hcomplete.resolved_activity ((hcomplete.flows pair hmem).tasks decl hdecl) hactivity

theorem Move.resolved (hmove : Move s s') (hresolved : s.Resolved) : s'.Resolved := by
  cases hmove with
  | turn hturn => exact (turned hturn).resolved hresolved
  | act hact => exact hresolved.of_grows hact.grows hact.tasks_size
  | breakpoint name =>
      have halike := alike_setBreakpoint s name
      exact hresolved.of_grows halike.grows (by rw [halike.tasks])

/-- A session starts with its document checked. -/
theorem initial_resolved {document : Document} {settings : SessionSettings} {ownsEvents : Bool}
    {declared : FlowDecl} (hfault : document.fault? = none)
    (hdeclared : Keyed.get? document.startingFlow document.repository.flows = some declared) :
    (initial document settings ownsEvents declared.settings).Resolved where
  repository := (Document.fault?_eq_none_iff.mp hfault).2.2
  tasks := by
    intro id task htask
    obtain ⟨index⟩ := id
    cases index with
    | zero =>
        cases htask
        have hcomplete := (Document.fault?_eq_none_iff.mp hfault).2.2
        exact (hcomplete.flows _ (Keyed.mem_of_get? hdeclared)).conditions
    | succ index => cases htask

end

end Session

end Workflow
