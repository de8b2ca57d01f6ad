import Workflow.Proofs.Session.Backward
import Workflow.Proofs.Session.Moments
import Workflow.Proofs.Session.Return

/-!
# What a flow leaves behind

The result of a flow's scope is empty as long as the flow is not complete: whatever its tasks leave
goes to its state or to its pass, and only publishing adds to the result.  A flow that is complete
has nothing open and does not change any more.  As long as the flow around it has not folded it, its
scope keeps the state in which it published, and its publication is the result, `Session.Reserved`.
-/

namespace Workflow.Session

/-- An empty result of the scope stays empty. -/
def KeepsEmpty (s s' : Session) (scope : ScopeId) : Prop :=
  (s.scope scope).result = .empty → (s'.scope scope).result = .empty

namespace KeepsEmpty

variable {s s' : Session} {scope : ScopeId}

theorem of_same (hsame : s'.scopeAt? scope = s.scopeAt? scope) : KeepsEmpty s s' scope := by
  intro hempty
  rw [scope_eq, hsame, ← scope_eq, hempty]

theorem modifyScope (hkeeps : KeepsEmpty s s' scope) (id : ScopeId) {change : Scope → Scope}
    (hchange : id = scope → ∀ found, found.result = .empty → (change found).result = .empty) :
    KeepsEmpty s (s'.modifyScope id change) scope := by
  intro hempty
  have hbefore := hkeeps hempty
  rw [scope_eq] at hbefore ⊢
  rw [scopeAt?_modifyScope]
  split_ifs with hself
  · cases hfound : s'.scopeAt? scope with
    | none => rfl
    | some found =>
        rw [hfound] at hbefore
        exact hchange hself found hbefore
  · exact hbefore

theorem mergeState (hkeeps : KeepsEmpty s s' scope) (id : ScopeId) (patch : Value) :
    KeepsEmpty s (s'.modifyScope id (·.mergeState patch)) scope :=
  hkeeps.modifyScope id fun _ _ hempty => hempty

theorem closeScope (hkeeps : KeepsEmpty s s' scope) (id : ScopeId) :
    KeepsEmpty s (s'.closeScope id) scope := by
  refine hkeeps.modifyScope id fun _ found hempty => ?_
  unfold Scope.release
  split_ifs <;> first | exact hempty | rfl

theorem openScope (hkeeps : KeepsEmpty s s' scope) (hlt : scope.index < s'.scopes.size)
    (state : Value) (parent : Option ScopeId) :
    KeepsEmpty s (s'.openScope state parent) scope := by
  intro hempty
  have hne : scope ≠ s'.nextScope := ScopeId.ne_of_lt hlt
  rw [scope_eq, scopeAt?_openScope, if_neg hne, ← scope_eq]
  exact hkeeps hempty

end KeepsEmpty

section

variable {s s' : Session} {id : TaskId} {task : Task}

/-- The scope of a pass is that of no task. -/
theorem Wired.pass_ne (hwired : s.Wired) {owner : TaskId} {flow : Flow} {pass : ScopeId}
    (hflow : s.flowAt? owner = some flow) (hpass : flow.pass = some pass)
    (htask : s.taskAt? id = some task) : pass ≠ task.scope := by
  rintro rfl
  obtain ⟨parent, hbinding⟩ := hwired.bound htask
  rw [((hwired.linked hflow).pass hpass).1] at hbinding
  cases hbinding

/-- Folding a child adds to the results of passes only. -/
theorem Wired.keepsEmpty_foldChild (hwired : s.Wired) {owner : TaskId} {flow : Flow}
    (hflow : s.flowAt? owner = some flow) (child : Child) (htask : s.taskAt? id = some task) :
    KeepsEmpty s (s.foldChild owner child) task.scope := by
  have hfolded : KeepsEmpty s (s.modifyScope (s.around owner flow) fun scope =>
      (if flow.pass.isSome then scope.mergeResult (s.scope child.scope).result
        else scope).mergeState (s.scope child.scope).result) task.scope := by
    refine KeepsEmpty.modifyScope (.of_same rfl) _ fun hself found hempty => ?_
    cases hpass : flow.pass with
    | none => exact hempty
    | some pass =>
        rw [around_eq, hpass, Option.getD_some] at hself
        exact absurd hself (hwired.pass_ne hflow hpass htask)
  rw [foldChild_eq hflow]
  exact hfolded.closeScope child.scope

/-- A leaf that runs adds to its own result only. -/
theorem AtChild.keepsEmpty_runChild {scope : ScopeId} {owner : TaskId} {flow : Flow} {child : Child}
    {inner : Task} {ran : Session} (hat : s.AtChild scope owner flow child inner)
    (hwired : s.Wired) (hleaf : inner.isFlow = true → inner.complete = true)
    (hrun : s.runChild owner child inner = (.ok (), ran)) (htask : s.taskAt? id = some task)
    (hisFlow : task.isFlow = true) : KeepsEmpty s ran task.scope := by
  rcases runChild_cases hrun with ⟨rfl, -⟩ | ⟨effect, heffect, hopen, rfl⟩
  · exact .of_same rfl
  · have hran : KeepsEmpty s effect task.scope := by
      cases heffect with
      | updated patch =>
          refine KeepsEmpty.modifyScope (.of_same rfl) _ fun hself _ _ => ?_
          cases hwired.eq_of_scope_eq hat.inner htask hself
          rw [hat.inner] at htask
          cases htask
          rw [hleaf hisFlow] at hopen
          cases hopen
      | broken | announced => exact .of_same rfl
    exact hran

/-- A turn adds to the result of a flow's scope only by completing the flow. -/
theorem Turned.keepsEmpty {result : Except Error Turn} (hturned : s.Turned result s')
    (hwired : s.Wired) (htask : s.taskAt? id = some task) (hisFlow : task.isFlow = true)
    (hopen : ∀ task', s'.taskAt? id = some task' → task'.complete = false) :
    KeepsEmpty s s' task.scope := by
  have hlt : task.scope.index < s.scopes.size :=
    scopeOf_eq_of_taskAt? htask ▸ hwired.scopeOf_lt htask
  have hattempt : ∀ owner flow, KeepsEmpty s (s.attempt owner flow) task.scope := by
    intro owner flow
    have hmoved : KeepsEmpty s
        (s.modifyFlow owner fun flow => { flow with cursor := flow.cursor + 1 }) task.scope :=
      .of_same rfl
    exact hmoved.openScope hlt _ _
  cases hturned with
  | idle | stuck | waiting | unbound | entered | interrupted => exact .of_same rfl
  | left _ _ _ _ _ hleave =>
      unfold leave at hleave
      dsimp only at hleave
      split_ifs at hleave
      · cases hleave
        exact KeepsEmpty.closeScope (.of_same rfl) _
      · cases hleave
        exact .of_same rfl
  | @settled _ _ _ child _ _ hat _ hleaf hrun =>
      obtain ⟨broke, hflow⟩ := hat.flowAt?_runChild hwired hrun
      obtain ⟨task', htask', hskeleton, -⟩ := (runChild_grows hrun).tasks htask
      have hfolded := (hwired.runChild hrun).keepsEmpty_foldChild hflow child htask'
      rw [Task.scope_of_skeleton hskeleton] at hfolded
      exact fun hempty => hfolded (hat.keepsEmpty_runChild hwired hleaf hrun htask hisFlow hempty)
  | dropped => exact KeepsEmpty.closeScope (.of_same rfl) _
  | skipped | unopened => exact (hattempt _ _).closeScope _
  | opened =>
      have hold : task.scope ≠ s.nextScope := ScopeId.ne_of_lt hlt
      exact .of_same (by rw [scopeAt?_openChild, if_neg hold])
  | passOpened => exact KeepsEmpty.openScope (.of_same rfl) hlt _ _
  | passEnded => exact KeepsEmpty.closeScope (.mergeState (.of_same rfl) _ _) _
  | @published _ self flow _ mark value hat =>
      obtain ⟨working, hwork⟩ := hat.working
      have hscopes := (concluded_others s self mark).2.2.2.2.2
      have hmerged : KeepsEmpty s ((s.concluded self mark).modifyScope (s.scopeOf self)
          (·.mergeResult value)) task.scope := by
        refine KeepsEmpty.modifyScope (.of_same (by rw [scopeAt?, hscopes]; rfl)) _
          fun hself _ _ => ?_
        rw [scopeOf_eq_of_taskAt? hwork.here] at hself
        cases hwired.eq_of_scope_eq hwork.here htask hself
        have hdone : (s.published id mark value).taskAt? id =
            (((s.concluded id mark).modifyScope (s.scopeOf id)
              (·.mergeResult value)).taskAt? id).map ({ · with complete := true }) := by
          rw [Session.published, taskAt?_complete, if_pos rfl]
        obtain ⟨after, hafter, -⟩ := (Grows.concluded (.refl s) id mark).tasks htask
        rw [taskAt?_modifyScope, hafter] at hdone
        cases hopen _ hdone
      exact hmerged
  | @unpublished _ self =>
      exact .of_same (by rw [scopeAt?, (concluded_others s self true).2.2.2.2.2]; rfl)

theorem Grows.incomplete_before (hgrows : Grows s s') (htask : s.taskAt? id = some task)
    {task' : Task} (htask' : s'.taskAt? id = some task') (hopen : task'.complete = false) :
    task.complete = false := by
  obtain ⟨found, hfound, -, hcomplete⟩ := hgrows.tasks htask
  rw [htask'] at hfound
  cases hfound
  cases hbefore : task.complete with
  | false => rfl
  | true =>
      rw [hcomplete hbefore] at hopen
      cases hopen

/-- Flows that are not complete have left nothing. -/
def Withheld (s : Session) : Prop :=
  ∀ ⦃id task⦄, s.taskAt? id = some task → task.isFlow = true → task.complete = false →
    (s.scope task.scope).result = .empty

theorem Turned.withheld {result : Except Error Turn} (hturned : s.Turned result s')
    (hwired : s.Wired) (hwithheld : s.Withheld) : s'.Withheld := by
  have hgrows := hturned.grows
  intro id task' htask' hisFlow hopen
  by_cases hold : id.index < s.tasks.size
  · obtain ⟨task, htask, hskeleton⟩ := hgrows.exists_before htask' hold
    have hbefore := hgrows.incomplete_before htask htask' hopen
    rw [Task.isFlow_of_skeleton hskeleton] at hisFlow
    rw [Task.scope_of_skeleton hskeleton]
    refine hturned.keepsEmpty hwired htask hisFlow (fun found hfound => ?_)
      (hwithheld htask hisFlow hbefore)
    rw [htask'] at hfound
    cases hfound
    exact hopen
  · have hlt := taskAt?_lt htask'
    rcases hturned.tasks_size with hsize | ⟨scope, owner, flow, decl, activity, hat, -, -, rfl⟩
    · exact absurd (hsize ▸ hlt) hold
    · -- The task that has just been opened is in a new scope.
      obtain ⟨task, hwork⟩ := hat.working
      rw [(openChild_others s owner flow decl activity).2.2.2.2.2.2.2.1] at hlt
      have hnew : id = s.nextTask := TaskId.index_inj.mp (show id.index = s.tasks.size by omega)
      rw [hnew, taskAt?_openChild s (taskAt?_lt hwork.here), if_pos rfl] at htask'
      cases htask'
      have hscope : (s.declaredTask owner decl activity).scope = s.nextScope := rfl
      rw [hscope, scope_eq, scopeAt?_openChild, if_pos rfl]
      rfl

/-- A flow that publishes adds to the result of its own scope. -/
theorem Wired.scope_published (hwired : s.Wired) (htask : s.taskAt? id = some task) (mark : Bool)
    (value : Value) : (s.published id mark value).scope (s.scopeOf id) =
      (s.scope (s.scopeOf id)).mergeResult value := by
  obtain ⟨found, hfound⟩ := hwired.exists_scopeAt? htask
  rw [scope_eq_of_scopeAt? hfound]
  apply scope_eq_of_scopeAt?
  rw [Session.published, scopeAt?_complete, scopeAt?_modifyScope_self, scopeAt?,
    (concluded_others s id mark).2.2.2.2.2, ← scopeAt?, hfound]
  rfl

/-! ## Complete flows -/

def IsComplete (s : Session) (id : TaskId) : Prop :=
  ∃ task, s.taskAt? id = some task ∧ task.complete = true

theorem isComplete_congr (hsame : s'.taskAt? id = s.taskAt? id) :
    s'.IsComplete id ↔ s.IsComplete id := by
  rw [IsComplete, hsame, IsComplete]

theorem isComplete_modifyFlow (s : Session) (owner : TaskId) (change : Flow → Flow) (id : TaskId) :
    (s.modifyFlow owner change).IsComplete id ↔ s.IsComplete id := by
  rw [IsComplete, taskAt?_modifyFlow]
  split_ifs
  · simp [IsComplete]
  · rfl

theorem isComplete_complete (s : Session) (done id : TaskId) :
    (s.complete done).IsComplete id → s.IsComplete id ∨ done = id := by
  rintro ⟨task, htask, hcomplete⟩
  rw [taskAt?_complete] at htask
  split_ifs at htask with hself
  · exact .inr hself
  · exact .inl ⟨task, htask, hcomplete⟩

theorem isComplete_concluded (s : Session) (owner : TaskId) (mark : Bool) (id : TaskId) :
    (s.concluded owner mark).IsComplete id ↔ s.IsComplete id := by
  unfold concluded
  split_ifs
  · exact isComplete_modifyFlow s owner _ id
  · rfl

theorem isComplete_attempt (s : Session) (owner : TaskId) (flow : Flow) (id : TaskId) :
    (s.attempt owner flow).IsComplete id ↔ s.IsComplete id :=
  isComplete_modifyFlow s owner _ id

theorem isComplete_foldChild {owner : TaskId} {flow : Flow} (hflow : s.flowAt? owner = some flow)
    (child : Child) (id : TaskId) : (s.foldChild owner child).IsComplete id ↔ s.IsComplete id := by
  rw [foldChild_eq hflow]
  exact isComplete_modifyFlow _ owner _ id

/-- A turn completes a leaf that it runs, or a flow that publishes. -/
theorem Turned.isComplete {result : Except Error Turn} (hturned : s.Turned result s')
    (hwired : s.Wired) (hcomplete : s'.IsComplete id) :
    s.IsComplete id ∨ (∃ task, s.taskAt? id = some task ∧ task.isFlow = false) ∨
      ∃ scope flow step mark value, s.AtStep scope id flow step ∧
        (step = .publish ∨ step = .nextPass) ∧
        flow.publication (s.scope (s.scopeOf id)).state = .ok value ∧
          s' = s.published id mark value := by
  cases hturned with
  | idle | stuck | waiting | unbound | entered => exact .inl hcomplete
  | left _ _ _ _ _ hleave =>
      unfold leave at hleave
      dsimp only at hleave
      split_ifs at hleave <;> cases hleave <;> exact .inl hcomplete
  | interrupted => exact .inl ((isComplete_modifyFlow s _ _ id).mp hcomplete)
  | settled hat _ hleaf hrun =>
      obtain ⟨broke, hflow⟩ := hat.flowAt?_runChild hwired hrun
      rw [isComplete_foldChild hflow] at hcomplete
      rcases runChild_cases hrun with ⟨rfl, -⟩ | ⟨effect, heffect, hopen, rfl⟩
      · exact .inl hcomplete
      · rcases isComplete_complete _ _ _ hcomplete with hbefore | rfl
        · left
          cases heffect with
          | updated | announced => exact hbefore
          | broken => exact (isComplete_modifyFlow s _ _ id).mp hbefore
        · refine .inr (.inl ⟨_, hat.inner, ?_⟩)
          by_contra hisFlow
          rw [hleaf (by simpa using hisFlow)] at hopen
          cases hopen
  | dropped => exact .inl ((isComplete_modifyFlow (s.closeScope _) _ _ id).mp hcomplete)
  | @skipped _ owner flow | @unopened _ owner flow =>
      exact .inl ((isComplete_attempt s owner flow id).mp hcomplete)
  | @opened _ owner flow decl activity hat =>
      obtain ⟨task', htask', hdone⟩ := hcomplete
      obtain ⟨working, hwork⟩ := hat.working
      rw [taskAt?_openChild s (taskAt?_lt hwork.here)] at htask'
      split_ifs at htask' with hnew hself
      · cases htask'
        cases hdone
      · obtain ⟨task, htask, rfl⟩ := Option.map_eq_some_iff.mp htask'
        exact .inl ⟨task, htask, by rwa [(Task.mapFlow_others _ task).2.2.2] at hdone⟩
      · exact .inl ⟨task', htask', hdone⟩
  | passOpened => exact .inl ((isComplete_modifyFlow (s.openScope _ _) _ _ id).mp hcomplete)
  | passEnded =>
      exact .inl ((isComplete_modifyFlow ((s.modifyScope _ _).closeScope _) _ _ id).mp hcomplete)
  | @published _ owner flow step mark value hat hstep hresult =>
      rcases isComplete_complete _ _ _ hcomplete with hbefore | rfl
      · exact .inl ((isComplete_concluded s owner mark id).mp hbefore)
      · exact .inr (.inr ⟨_, _, _, _, _, hat, hstep, hresult, rfl⟩)
  | @unpublished _ owner => exact .inl ((isComplete_concluded s owner true id).mp hcomplete)

theorem Grows.flowAt?_before (hgrows : Grows s s') {flow' : Flow}
    (hflow' : s'.flowAt? id = some flow') (hold : id.index < s.tasks.size) :
    ∃ flow, s.flowAt? id = some flow ∧ flow'.skeleton = flow.skeleton := by
  obtain ⟨task', htask', hruns'⟩ := flowAt?_eq_some_iff.mp hflow'
  obtain ⟨task, htask, hskeleton⟩ := hgrows.exists_before htask' hold
  have hmapped := Task.flow?_of_skeleton hskeleton
  rw [hruns'] at hmapped
  obtain ⟨flow, hruns, hsame⟩ := Option.map_eq_some_iff.mp hmapped.symm
  exact ⟨flow, flowAt?_eq_some_iff.mpr ⟨task, htask, hruns⟩, hsame.symm⟩

/-- The scope of the innermost flow is at the head. -/
theorem Sound.head_of_nested (hsound : s.Sound) (hnested : s.Nested id s.active.toList) :
    s.active.head? = some (s.scopeOf id) ∧ (s.scope (s.scopeOf id)).flow = some id := by
  obtain ⟨outer, hlist⟩ := hnested.eq_cons hsound.wired
  rw [hlist] at hnested
  refine ⟨?_, hnested.flow_scope hsound.wired⟩
  rw [Cursor.head?_eq hsound.active, hlist]
  rfl

/-- A turn does not change a complete flow. -/
theorem flowAt?_turn_of_isComplete {result : Except Error Turn} {flow : Flow}
    (hturn : s.turn = (result, s')) (hsound : s.Sound) (hflow : s.flowAt? id = some flow)
    (hcomplete : s.IsComplete id) : s'.flowAt? id = some flow := by
  have hturned := turned hturn
  obtain ⟨task, htask, hdone⟩ := hcomplete
  by_cases hidle : s.redirectedTo.isSome ∨ s.active.head? = none
  · rw [turn_of_not_running hidle] at hturn
    cases hturn
    exact hflow
  · rw [not_or, Option.not_isSome_iff_eq_none] at hidle
    obtain ⟨hrunning, hactive⟩ := hidle
    obtain ⟨scope, hhead⟩ := Option.ne_none_iff_exists'.mp hactive
    obtain ⟨innermost, outer, -, -, hbound⟩ := hsound.head hhead
    by_cases hself : innermost = id
    · subst hself
      rw [turn_of_complete hrunning hhead hbound htask hdone, leave] at hturn
      dsimp only at hturn
      split_ifs at hturn <;> cases hturn <;> exact hflow
    · have hold : id ≠ s.nextTask := TaskId.ne_of_lt (taskAt?_lt htask)
      rw [hturned.flowAt?_of_ne hsound.wired hhead hbound hself hold, hflow]

/-- Only a flow that is not complete is gone back to. -/
theorem Sound.target_incomplete (hsound : s.Sound) (hrest : s.Resting) {requester : Option TaskId}
    {target : ScopeId}
    (htarget : s.returnTarget? id requester s.active.toList = some target) :
    ¬ s.IsComplete id := by
  rcases hsound.nested with hempty | ⟨innermost, hnested⟩
  · rw [hempty] at htarget
    cases htarget
  · obtain ⟨-, outer, hsuffix, hflow⟩ := hnested.of_returnTarget? hsound.wired htarget
    obtain ⟨hhead, hbound⟩ := hsound.head_of_nested hnested
    obtain ⟨found, hfound, hopen⟩ := hnested.incomplete hsound.wired (hrest _ _ hhead hbound)
      hsuffix (hflow.flow_scope hsound.wired)
    rintro ⟨task, htask, hdone⟩
    rw [hfound] at htask
    cases htask
    rw [hopen] at hdone
    cases hdone

/-- While a session rests, none of the flows being run is complete. -/
theorem Resting.running_incomplete (hrest : s.Resting) (hsound : s.Sound)
    (hrunning : s.Running id) : ¬ s.IsComplete id := by
  obtain ⟨innermost, hchain⟩ := hsound.nested.resolve_left hrunning.nonempty
  obtain ⟨hhead, hbound⟩ := hsound.head_of_nested hchain
  obtain ⟨scope, outer, hsuffix, hself⟩ := hrunning
  obtain ⟨found, hfound, hopen⟩ := hchain.incomplete hsound.wired (hrest _ _ hhead hbound)
    hsuffix (hself.flow_scope hsound.wired)
  rintro ⟨task, htask, hdone⟩
  rw [hfound] at htask
  cases htask
  rw [hopen] at hdone
  cases hdone

/-- A complete flow that is being run is the innermost one. -/
theorem Running.innermost_of_isComplete (hrunning : s.Running id) (hsound : s.Sound)
    (hcomplete : s.IsComplete id) : s.Nested id s.active.toList := by
  obtain ⟨innermost, hchain⟩ := hsound.nested.resolve_left hrunning.nonempty
  obtain ⟨scope, outer, hsuffix, hself⟩ := hrunning
  obtain ⟨task, htask, hdone⟩ := hcomplete
  rcases hchain.cases_of_suffix hsound.wired hself hsuffix with rfl |
    ⟨found, -, -, -, hfound, hopen, -⟩
  · exact hchain
  · rw [htask] at hfound
    cases hfound
    rw [hdone] at hopen
    cases hopen

/-- The child of a flow on a chain is on the chain too, unless the flow is the inner end of it. -/
theorem Nested.child_of_suffix {innermost : TaskId} {scopes outer : List ScopeId} {scope : ScopeId}
    {flow : Flow} {child : Child} (hnested : s.Nested innermost scopes) (hwired : s.Wired)
    (hself : s.Nested id (scope :: outer)) (hsuffix : scope :: outer <:+ scopes)
    (hflow : s.flowAt? id = some flow) (hcurrent : flow.current = some child) :
    id = innermost ∨ s.Nested child.task (child.scope :: scope :: outer) ∧
      child.scope :: scope :: outer <:+ scopes := by
  have hhere : ∀ {other scopes}, s.Nested other scopes → scope :: outer = scopes → id = other := by
    rintro other scopes hother rfl
    have hbound := hself.flow_scope hwired
    rw [hother.flow_scope hwired] at hbound
    exact (Option.some.inj hbound).symm
  induction hnested with
  | root =>
      rcases List.suffix_cons_iff.mp hsuffix with heq | hsuffix
      · exact .inl (hhere .root heq)
      · simp at hsuffix
  | @child id' scopes task flow' _ inner houter htask hopen hruns hcurrent' hinner hisFlow ih =>
      rcases List.suffix_cons_iff.mp hsuffix with heq | hsuffix
      · exact .inl (hhere (.child houter htask hopen hruns hcurrent' hinner hisFlow) heq)
      · right
        rcases ih hsuffix with rfl | ⟨hchild, hbelow⟩
        · have hsame := flowAt?_eq_some_iff.mpr ⟨task, htask, hruns⟩
          rw [hflow] at hsame
          cases hsame
          rw [hcurrent] at hcurrent'
          cases hcurrent'
          rw [houter.unique hself hwired hwired (.refl s)]
          exact ⟨.child houter htask hopen hruns hcurrent hinner hisFlow, List.suffix_rfl⟩
        · exact ⟨hchild, hbelow.trans (List.suffix_cons _ _)⟩

/-- The child of a running flow is running too, unless the flow is the innermost one. -/
theorem Running.child (hrunning : s.Running id) (hsound : s.Sound) {flow : Flow} {child : Child}
    (hflow : s.flowAt? id = some flow) (hcurrent : flow.current = some child) :
    s.Nested id s.active.toList ∨ s.Running child.task := by
  obtain ⟨innermost, hchain⟩ := hsound.nested.resolve_left hrunning.nonempty
  obtain ⟨scope, outer, hsuffix, hself⟩ := hrunning
  rcases hchain.child_of_suffix hsound.wired hself hsuffix hflow hcurrent with rfl |
    ⟨hchild, hbelow⟩
  · exact .inl hchain
  · exact .inr ⟨_, _, hbelow, hchild⟩

/-! ## Results in reserve -/

/-- The scope of a complete flow still has the state in which the flow published, and what it
published in its result. -/
def Published (s : Session) (scope : ScopeId) (flow : Flow) : Prop :=
  ∃ value, flow.publication (s.scope scope).state = .ok value ∧
    (s.scope scope).result = Value.empty.merge value

/-- Flows that are not complete have left nothing, and neither had the flows of records; complete
flows have nothing open; and what a running flow has yet to fold of a complete flow is its
publication. -/
structure Reserved (s : Session) : Prop where
  withheld : s.Withheld
  records : ∀ visit ∈ s.history.toList, visit.result = .empty
  done : ∀ ⦃id flow⦄, s.flowAt? id = some flow → s.IsComplete id → flow.inside = []
  published : ∀ ⦃id flow child nested⦄, s.Running id → s.flowAt? id = some flow →
    flow.current = some child → s.flowAt? child.task = some nested → s.IsComplete child.task →
      s.Published child.scope nested

theorem Flow.publication_concluded (flow : Flow) (mark : Bool) (state : Value) :
    (flow.concluded mark).publication state = flow.publication state := by
  cases mark <;> rfl

/-- A turn at a complete child hands it out for its breakpoint or folds it. -/
theorem AtChild.turn_cases_of_complete {scope : ScopeId} {flow : Flow} {child : Child}
    {inner : Task}
    (hat : s.AtChild scope id flow child inner) (hcomplete : inner.complete = true) :
    s.turn = (.ok (.handOut child.task), s.markInterrupted id) ∨
      s.turn = (.ok .again, s.foldChild id child) := by
  rw [hat.turn_eq]
  by_cases hbreak : (!child.interrupted && s.settings.breakpoints.contains inner.name) = true
  · exact .inl (if_pos hbreak)
  · right
    rw [if_neg hbreak, if_neg (by simp [Task.requiresInput, hcomplete]),
      if_neg (by simp [hcomplete]), settleChild, runChild, if_pos hcomplete]

/-- As long as a running flow keeps a complete flow as its child, the scope of the child does not
change. -/
theorem Keeps.scope_of_complete {result : Except Error Turn} {flow flow' : Flow}
    {child child' : Child} (hkeeps : Keeps s s' id flow flow' child)
    (hturn : s.turn = (result, s')) (hsound : s.Sound) (hreserved : s.Reserved)
    (hcomplete : s.IsComplete child.task) (hrunning' : s'.Running id)
    (hflow' : s'.flowAt? id = some flow') (hcurrent' : flow'.current = some child') :
    s'.scopeAt? child.scope = s.scopeAt? child.scope := by
  obtain ⟨inner, hinner, hdone⟩ := hcomplete
  obtain ⟨task, htask, hruns⟩ := flowAt?_eq_some_iff.mp hkeeps.before
  by_cases hredirected : s.redirectedTo.isSome
  · rw [turn_of_not_running (.inl hredirected)] at hturn
    cases hturn
    rfl
  · have hcalm : s.redirectedTo = none := by simpa using hredirected
    rcases hkeeps.running.child hsound hkeeps.before hkeeps.current with hchain | hchild
    · obtain ⟨hhead, hbound⟩ := hsound.head_of_nested hchain
      have hopen : task.complete = false := by
        by_contra hcomplete
        have hinside := hreserved.done hkeeps.before ⟨task, htask, by simpa using hcomplete⟩
        rw [Flow.inside, hkeeps.current] at hinside
        simp at hinside
      have hat : s.AtChild (s.scopeOf id) id flow child inner :=
        ⟨⟨task, hcalm, hhead, hbound, htask, hopen, hruns⟩, hkeeps.current, hinner⟩
      rcases hat.turn_cases_of_complete hdone with hhanded | hfolded
      · rw [hhanded] at hturn
        cases hturn
        rfl
      · rw [hfolded] at hturn
        cases hturn
        rw [flowAt?_foldChild hkeeps.before] at hflow'
        cases hflow'
        cases hcurrent'
    · -- The child is the innermost flow, and all that happens is that it is left.
      have hchain := hchild.innermost_of_isComplete hsound ⟨inner, hinner, hdone⟩
      obtain ⟨hhead, hbound⟩ := hsound.head_of_nested hchain
      rw [Session.turn_of_complete hcalm hhead hbound hinner hdone, leave] at hturn
      dsimp only at hturn
      split_ifs at hturn with hlast
      · cases hturn
        have hempty := hrunning'.nonempty
        rw [Cursor.isEmpty_eq hsound.active.pop, List.isEmpty_iff] at hlast
        exact absurd hlast hempty
      · cases hturn
        rfl

/-- A turn keeps results in reserve. -/
theorem Reserved.turn {result : Except Error Turn} (hreserved : s.Reserved)
    (hturn : s.turn = (result, s')) (horderly : s.Orderly) : s'.Reserved := by
  have hturned := turned hturn
  have hsound := horderly.sound
  have hwired := horderly.wired
  have hgrows := hturned.grows
  refine ⟨hturned.withheld hwired hreserved.withheld, hturned.cursors.1 ▸ hreserved.records, ?_, ?_⟩
  · intro id flow' hflow' hcomplete'
    rcases hturned.isComplete hwired hcomplete' with hcomplete | ⟨task, htask, hleaf⟩ |
      ⟨scope, flow, step, mark, value, hat, hstep, -, rfl⟩
    · have ⟨task, htask, _⟩ := hcomplete
      obtain ⟨flow, hflow, -⟩ := hgrows.flowAt?_before hflow' (taskAt?_lt htask)
      have hsame := flowAt?_turn_of_isComplete hturn hsound hflow hcomplete
      rw [hflow'] at hsame
      cases hsame
      exact hreserved.done hflow hcomplete
    · obtain ⟨flow, hflow, -⟩ := hgrows.flowAt?_before hflow' (taskAt?_lt htask)
      rw [flowAt?, htask, Option.bind_some] at hflow
      rw [Task.isFlow, hflow] at hleaf
      cases hleaf
    · obtain ⟨working, hwork⟩ := hat.working
      rw [flowAt?_published, hwork.flowAt?] at hflow'
      cases hflow'
      rw [Flow.inside_concluded]
      exact hat.inside_eq_nil horderly.accounted.placed hstep
  · intro id flow' child' nested' hrunning' hflow' hcurrent' hnested' hcomplete'
    have hpristine := horderly.accounted.steady.pristine
    rcases keeps_turn hturn hsound hpristine hrunning' hflow' hcurrent' with
      ⟨flow, child, hkeeps⟩ | ⟨scope, flow, decl, activity, hat, -, -, rfl⟩
    · have hchild : child'.task = child.task ∧ child'.scope = child.scope := by
        rcases hkeeps.child_eq hcurrent' with rfl | rfl <;> exact ⟨rfl, rfl⟩
      rw [hchild.1] at hnested' hcomplete'
      rw [hchild.2]
      obtain ⟨inner, hinner, hscope, -⟩ := (hwired.linked hkeeps.before).child hkeeps.current
      obtain ⟨nested, hnested, -⟩ := hgrows.flowAt?_before hnested' (taskAt?_lt hinner)
      rcases hturned.isComplete hwired hcomplete' with hcomplete | ⟨task, htask, hleaf⟩ |
        ⟨scope, found, step, mark, value, hat, -, hresult, rfl⟩
      · have hsame := flowAt?_turn_of_isComplete hturn hsound hnested hcomplete
        rw [hnested'] at hsame
        cases hsame
        have hkept := hkeeps.scope_of_complete hturn hsound hreserved hcomplete hrunning' hflow'
          hcurrent'
        rw [Published, scope_congr hkept]
        exact hreserved.published hkeeps.running hkeeps.before hkeeps.current hnested hcomplete
      · rw [flowAt?, htask, Option.bind_some] at hnested
        rw [Task.isFlow, hnested] at hleaf
        cases hleaf
      · -- The child is the flow that publishes.
        obtain ⟨working, hwork⟩ := hat.working
        have hplace : s.scopeOf child.task = child.scope := by
          rw [scopeOf_eq_of_taskAt? hinner, hscope]
        have hempty := hreserved.withheld hwork.here (by rw [Task.isFlow, hwork.runs]; rfl)
          hwork.incomplete
        have hafter := hwired.scope_published hwork.here mark value
        rw [hplace] at hafter hresult
        rw [← scopeOf_eq_of_taskAt? hwork.here, hplace] at hempty
        rw [flowAt?_published, hwork.flowAt?] at hnested'
        cases hnested'
        refine ⟨value, ?_, ?_⟩
        · rw [hafter, Flow.publication_concluded]
          exact hresult
        · rw [hafter]
          exact congrArg (Value.merge · value) hempty
    · -- A child that has just been opened is not complete.
      rw [flowAt?_openChild hat] at hflow'
      cases hflow'
      cases hcurrent'
      obtain ⟨working, hwork⟩ := hat.working
      obtain ⟨inner, hinner, hdone⟩ := hcomplete'
      have hnew : (s.nextChild flow).task = s.nextTask := rfl
      rw [hnew, taskAt?_openChild s (taskAt?_lt hwork.here), if_pos rfl] at hinner
      cases hinner
      cases hdone

/-! ## Acts and results in reserve -/

/-- An act changes the scope of a flow only by going back to it. -/
theorem Quiet.scopeAt?_of_isFlow {acted : TaskId} (hquiet : Quiet acted s s') (hwired : s.Wired)
    (htask : s.taskAt? id = some task) (hisFlow : task.isFlow = true) :
    s'.scopeAt? task.scope = s.scopeAt? task.scope := by
  rcases hquiet.scopes task.scope with hsame | ⟨other, hother, hinput, hscope⟩
  · exact hsame
  · cases hwired.eq_of_scope_eq hother htask hscope
    rw [htask] at hother
    cases hother
    rw [Task.isFlow_of_takesInput hinput] at hisFlow
    cases hisFlow

theorem Act.keepsEmpty {acted : TaskId} (hact : Act acted s s') (hsound : s.Sound)
    (hrecords : ∀ visit ∈ s.history.toList, visit.result = .empty)
    (htask : s.taskAt? id = some task) (hisFlow : task.isFlow = true) :
    KeepsEmpty s s' task.scope := by
  rcases hact.quiet_or_returned with hquiet | ⟨asking, entry, target, -, hentry, htarget, rfl⟩
  · exact .of_same (hquiet.scopeAt?_of_isFlow hsound.wired htask hisFlow)
  · intro hempty
    obtain ⟨above, target, outer, -, -, -, hscopes⟩ := (hsound.wentBack hentry htarget).unwound
    obtain ⟨found, hfound⟩ := hsound.wired.exists_scopeAt? htask
    rw [scopeOf_eq_of_taskAt? htask] at hfound
    rw [scope_eq_of_scopeAt? hfound] at hempty
    have hafter := hscopes _ _ hfound
    split_ifs at hafter
    · rw [scope_eq_of_scopeAt? hafter]
      rw [Cursor.head?_eq hsound.history] at hentry
      exact hrecords entry (List.mem_of_head? hentry)
    · rw [scope_eq_of_scopeAt? hafter]
      unfold Scope.release
      split_ifs <;> first | exact hempty | rfl
    · rw [scope_eq_of_scopeAt? hafter, hempty]

/-- A flow that is complete after an act was so before. -/
theorem Act.isComplete_flow {acted : TaskId} {flow' : Flow} (hact : Act acted s s')
    (hsound : s.Sound) (hrest : s.Resting) (hflow' : s'.flowAt? id = some flow')
    (hcomplete' : s'.IsComplete id) : s.flowAt? id = some flow' ∧ s.IsComplete id := by
  obtain ⟨task', htask', hdone⟩ := hcomplete'
  have hgrows := hact.grows
  rcases hact.quiet_or_returned with hquiet | ⟨asking, entry, target, -, hentry, htarget, rfl⟩
  · rw [hquiet.flowAt?_eq hgrows] at hflow'
    obtain ⟨task, htask, hruns⟩ := flowAt?_eq_some_iff.mp hflow'
    have hsame := hquiet.flows htask (by rw [Task.isFlow, hruns]; rfl)
    rw [htask'] at hsame
    cases hsame
    exact ⟨hflow', task', htask, hdone⟩
  · have hincomplete := hsound.target_incomplete hrest htarget
    rw [taskAt?_emit, taskAt?_restore] at htask'
    rw [flowAt?_emit, flowAt?_restore] at hflow'
    split_ifs at htask' with hself
    · obtain ⟨task, htask, rfl⟩ := Option.map_eq_some_iff.mp htask'
      rw [(Task.mapFlow_others _ task).2.2.2] at hdone
      exact absurd ⟨task, hself ▸ htask, hdone⟩ hincomplete
    · rw [if_neg hself] at hflow'
      exact ⟨hflow', task', htask', hdone⟩

/-- A record is made of a flow that is not complete. -/
theorem Reserved.visit (hreserved : s.Reserved) {flow : Flow} {entry : Visit}
    (hvisit : s.visitOf id = .ok (some (flow, entry))) : entry.result = .empty := by
  obtain ⟨inner, owner, child, -, -, hflow, hcurrent, -, rfl⟩ := visitOf_eq_some hvisit
  obtain ⟨task, htask, hruns⟩ := flowAt?_eq_some_iff.mp hflow
  have hopen : task.complete = false := by
    by_contra hcomplete
    have hinside := hreserved.done hflow ⟨task, htask, by simpa using hcomplete⟩
    rw [Flow.inside, hcurrent] at hinside
    simp at hinside
  have hempty := hreserved.withheld htask (by rw [Task.isFlow, hruns]; rfl) hopen
  rwa [← scopeOf_eq_of_taskAt? htask] at hempty

/-- After going back, no running flow has a complete flow as its child. -/
theorem Running.not_isComplete_child (hrunning : s.Running id) (hsound : s.Sound)
    (hrest : s.Resting) {flow : Flow} {child : Child} (hflow : s.flowAt? id = some flow)
    (hcurrent : flow.current = some child) (hinner : ¬ s.Nested id s.active.toList) :
    ¬ s.IsComplete child.task := by
  rcases hrunning.child hsound hflow hcurrent with hchain | hchild
  · exact absurd hchain hinner
  · exact hrest.running_incomplete hsound hchild

/-- An act keeps results in reserve. -/
theorem Reserved.act {acted : TaskId} (hreserved : s.Reserved) (hact : Act acted s s')
    (horderly : s.Orderly) (hrest : s.Resting) : s'.Reserved := by
  have hsound := horderly.sound
  have hwired := horderly.wired
  have hsound' := hact.sound hsound
  have hgrows := hact.grows
  refine ⟨?_, ?_, ?_, ?_⟩
  · intro id task' htask' hisFlow hopen
    have hlt : id.index < s.tasks.size := hact.tasks_size ▸ taskAt?_lt htask'
    obtain ⟨task, htask, hskeleton⟩ := hgrows.exists_before htask' hlt
    rw [Task.isFlow_of_skeleton hskeleton] at hisFlow
    rw [Task.scope_of_skeleton hskeleton]
    exact hact.keepsEmpty hsound hreserved.records htask hisFlow
      (hreserved.withheld htask hisFlow (hgrows.incomplete_before htask htask' hopen))
  · cases hact with
    | @recorded flow entry hvisit =>
        have hpushed : (s.remember flow entry).history = s.history.push entry := rfl
        rw [hpushed, Cursor.toList_push hsound.history]
        exact List.forall_mem_cons.mpr ⟨hreserved.visit hvisit, hreserved.records⟩
    | @returned asking entry target =>
        have hpopped : ((s.restore target entry).emit (.backAsked asking.name true)).history =
            s.history.pop := (restore_others s target entry).2.2.2.2.1
        rw [hpopped, Cursor.toList_pop hsound.history]
        exact fun visit hmem => hreserved.records visit (List.mem_of_mem_tail hmem)
    | _ => exact hreserved.records
  · intro id flow' hflow' hcomplete'
    obtain ⟨hflow, hcomplete⟩ := hact.isComplete_flow hsound hrest hflow' hcomplete'
    exact hreserved.done hflow hcomplete
  · intro id flow' child' nested hrunning' hflow' hcurrent' hnested' hcomplete'
    obtain ⟨hnested, hcomplete⟩ := hact.isComplete_flow hsound hrest hnested' hcomplete'
    obtain ⟨child, hkeeps⟩ := keeps_act hact hsound hrunning' hflow' hcurrent'
    rcases hact.quiet_or_returned with hquiet | ⟨asking, entry, target, -, hentry, htarget, rfl⟩
    · have hbefore := hreserved.published hkeeps.running hkeeps.before hcurrent' hnested hcomplete
      obtain ⟨inner, hinner, hscope, -⟩ := (hwired.linked hkeeps.before).child hcurrent'
      obtain ⟨found, hfound, hruns⟩ := flowAt?_eq_some_iff.mp hnested
      rw [hinner] at hfound
      cases hfound
      have hsame := hquiet.scopeAt?_of_isFlow hwired hinner (by rw [Task.isFlow, hruns]; rfl)
      rw [hscope] at hsame
      rwa [Published, scope_congr hsame]
    · -- The flow gone back to has nothing open, and the others have flows open that are running.
      have hback := hsound.wentBack hentry htarget
      obtain ⟨above, target, outer, -, hbound, hactive, -⟩ := hback.unwound
      refine absurd hcomplete' (hrunning'.not_isComplete_child hsound' (hact.resting hsound hrest)
        hflow' hcurrent' fun hchain => ?_)
      rw [hactive] at hchain
      have hself := hgrows.scope_flow hbound
      rw [hchain.flow_scope hsound'.wired] at hself
      cases hself
      obtain ⟨⟨flow, -, hreturned⟩, -⟩ := hback.returned
      rw [hflow'] at hreturned
      cases hreturned
      cases hcurrent'

theorem Alike.reserved (halike : Alike s s') (hsound : s.Sound) (hreserved : s.Reserved) :
    s'.Reserved := by
  have htasks : ∀ id, s'.taskAt? id = s.taskAt? id := by simp [taskAt?, halike.tasks]
  have hflows : ∀ id, s'.flowAt? id = s.flowAt? id := by simp [flowAt?, htasks]
  have hscopes : ∀ scope, s'.scope scope = s.scope scope := by
    simp [scope_eq, scopeAt?, halike.scopes]
  have hdone : ∀ id, s'.IsComplete id ↔ s.IsComplete id := fun id => isComplete_congr (htasks id)
  refine ⟨?_, halike.history ▸ hreserved.records, ?_, ?_⟩
  · intro id task htask
    rw [htasks] at htask
    rw [hscopes]
    exact hreserved.withheld htask
  · intro id flow hflow hcomplete
    rw [hflows] at hflow
    exact hreserved.done hflow ((hdone id).mp hcomplete)
  · intro id flow child nested hrunning hflow hcurrent hnested hcomplete
    rw [hflows] at hflow hnested
    have hbefore := hrunning.of_suffix hsound halike.grows (halike.wired hsound.wired)
      (halike.active ▸ List.suffix_rfl)
    rw [Published, hscopes]
    exact hreserved.published hbefore hflow hcurrent hnested ((hdone _).mp hcomplete)

theorem Moment.reserved (hmoment : Moment s s') (horderly : s.Orderly)
    (hreserved : s.Reserved) : s'.Reserved := by
  rcases hmoment.cases_alike with ⟨result, hturn⟩ | ⟨id, hrest, hact⟩ | halike
  · exact hreserved.turn hturn horderly
  · exact hreserved.act hact horderly hrest
  · exact halike.reserved horderly.sound hreserved

theorem Evolves.reserved (hevolves : s.Evolves s') (horderly : s.Orderly) (hreserved : s.Reserved) :
    s'.Reserved := by
  induction hevolves with
  | refl => exact hreserved
  | tail hbefore hmoment ih => exact hmoment.reserved (Evolves.orderly hbefore horderly) ih

end

/-- A session starts with nothing left by any flow. -/
theorem initial_reserved (document : Document) (settings : SessionSettings) (ownsEvents : Bool)
    (flowSettings : FlowSettings) :
    (initial document settings ownsEvents flowSettings).Reserved := by
  have hroot : ∀ {id task}, (initial document settings ownsEvents flowSettings).taskAt? id =
      some task → task = rootTask document flowSettings := by
    intro id task htask
    obtain ⟨index⟩ := id
    cases index with
    | zero => exact (Option.some.inj htask).symm
    | succ index => cases htask
  refine ⟨?_, by simp [initial], ?_, ?_⟩
  · intro id task htask _ _
    rw [hroot htask]
    rfl
  · rintro id flow - ⟨task, htask, hcomplete⟩
    rw [hroot htask] at hcomplete
    cases hcomplete
  · intro id flow child nested _ hflow hcurrent
    rw [current_initial hflow] at hcurrent
    cases hcurrent

theorem Driven.reserved {s : Session} (hdriven : s.Driven) : s.Reserved := by
  obtain ⟨document, settings, ownsEvents, start, hstart, hdrives⟩ := hdriven
  obtain ⟨horderly, hrest⟩ := orderly_start hstart
  obtain ⟨declared, -, rfl⟩ := start_eq hstart
  exact (hdrives.evolves horderly hrest).1.reserved horderly
    (initial_reserved document settings ownsEvents declared.settings)

end Workflow.Session
