import Workflow.Proofs.Session.Wiring

/-!
# What a turn leaves alone

A turn works on the innermost flow.  Tasks that are older than this flow, and scopes that are older
than its scope, are the same afterwards, `Session.SameBelow`: these are all the flows around it with
their scopes and passes.  The turn also keeps the session wired.
-/

namespace Workflow

namespace Session

/-- Nothing below the given places has changed. -/
structure SameBelow (s s' : Session) (id : TaskId) (scope : ScopeId) : Prop where
  tasks : ∀ other, other.index < id.index → s'.taskAt? other = s.taskAt? other
  scopes : ∀ other, other.index < scope.index → s'.scopeAt? other = s.scopeAt? other

namespace SameBelow

variable {s s' s'' : Session} {id : TaskId} {scope : ScopeId}

theorem of_same (htasks : s'.tasks = s.tasks) (hscopes : s'.scopes = s.scopes) :
    SameBelow s s' id scope where
  tasks := by simp [taskAt?, htasks]
  scopes := by simp [scopeAt?, hscopes]

theorem refl (s : Session) (id : TaskId) (scope : ScopeId) : SameBelow s s id scope :=
  of_same rfl rfl

theorem trans (hfirst : SameBelow s s' id scope) (hsecond : SameBelow s' s'' id scope) :
    SameBelow s s'' id scope where
  tasks := fun other h => (hsecond.tasks other h).trans (hfirst.tasks other h)
  scopes := fun other h => (hsecond.scopes other h).trans (hfirst.scopes other h)

theorem mono {lowerId : TaskId} {lowerScope : ScopeId} (hsame : SameBelow s s' id scope)
    (hid : lowerId.index ≤ id.index) (hscope : lowerScope.index ≤ scope.index) :
    SameBelow s s' lowerId lowerScope where
  tasks := fun other h => hsame.tasks other (Nat.lt_of_lt_of_le h hid)
  scopes := fun other h => hsame.scopes other (Nat.lt_of_lt_of_le h hscope)

theorem modifyScope (hsame : SameBelow s s' id scope) {changed : ScopeId}
    (habove : scope.index ≤ changed.index) (change : Scope → Scope) :
    SameBelow s (s'.modifyScope changed change) id scope where
  tasks := hsame.tasks
  scopes := by
    intro other h
    rw [scopeAt?_modifyScope_of_ne, hsame.scopes other h]
    rintro rfl
    omega

theorem closeScope (hsame : SameBelow s s' id scope) {closed : ScopeId}
    (habove : scope.index ≤ closed.index) : SameBelow s (s'.closeScope closed) id scope :=
  hsame.modifyScope habove _

theorem modifyTask (hsame : SameBelow s s' id scope) {changed : TaskId}
    (habove : id.index ≤ changed.index) (change : Task → Task) :
    SameBelow s (s'.modifyTask changed change) id scope where
  tasks := by
    intro other h
    have hne : changed ≠ other := by
      rintro rfl
      omega
    rw [taskAt?_modifyTask, if_neg hne, hsame.tasks other h]
  scopes := hsame.scopes

theorem modifyFlow (hsame : SameBelow s s' id scope) {changed : TaskId}
    (habove : id.index ≤ changed.index) (change : Flow → Flow) :
    SameBelow s (s'.modifyFlow changed change) id scope :=
  hsame.modifyTask habove _

theorem complete (hsame : SameBelow s s' id scope) {completed : TaskId}
    (habove : id.index ≤ completed.index) : SameBelow s (s'.complete completed) id scope :=
  hsame.modifyTask habove _

theorem openScope (hsame : SameBelow s s' id scope) (hthere : scope.index ≤ s'.scopes.size)
    (state : Value) (parent : Option ScopeId) :
    SameBelow s (s'.openScope state parent) id scope where
  tasks := hsame.tasks
  scopes := by
    intro other h
    have hne : other ≠ s'.nextScope := by
      rintro rfl
      exact absurd h (Nat.not_lt.mpr hthere)
    rw [scopeAt?_openScope, if_neg hne, hsame.scopes other h]

theorem openTask (hsame : SameBelow s s' id scope) (hthere : id.index ≤ s'.tasks.size)
    {task : Task} (habove : scope.index ≤ task.scope.index) :
    SameBelow s (s'.openTask task) id scope where
  tasks := by
    intro other h
    have hne : other ≠ s'.nextTask := by
      rintro rfl
      exact absurd h (Nat.not_lt.mpr hthere)
    rw [taskAt?_openTask, if_neg hne, hsame.tasks other h]
  scopes := by
    intro other h
    have hne : task.scope ≠ other := by
      rintro rfl
      omega
    rw [scopeAt?_openTask, if_neg hne, hsame.scopes other h]

end SameBelow

/-! ## Places in a wired session -/

variable {s : Session} {scope : ScopeId} {id : TaskId}

/-- The scope of a running flow is the scope of its task. -/
theorem Wired.scopeOf_eq (hwired : s.Wired) (hbound : (s.scope scope).flow = some id) :
    s.scopeOf id = scope := by
  cases hfound : s.scopeAt? scope with
  | none =>
      have hnone : (s.scope scope).flow = none := by
        rw [scope_eq, hfound]
        rfl
      rw [hbound] at hnone
      cases hnone
  | some found =>
      rw [scope_eq_of_scopeAt? hfound] at hbound
      have hbinding : s.bindingAt? scope = some found.binding := by rw [bindingAt?, hfound]; rfl
      cases htaken : found.task with
      | none =>
          have hnone : found.flow = none := hwired.free hbinding htaken
          rw [hbound] at hnone
          cases hnone
      | some bound =>
          obtain ⟨task, htask, hscope⟩ := hwired.taken hbinding htaken
          obtain ⟨parent, hsame⟩ := hwired.bound htask
          rw [hscope, hbinding] at hsame
          have hflow : found.flow = if task.isFlow then some bound else none :=
            congrArg Scope.Binding.flow (Option.some.inj hsame)
          rw [hbound] at hflow
          split_ifs at hflow
          cases hflow
          rw [scopeOf_eq_of_taskAt? htask, hscope]

/-- The scope of a flow task knows the flow. -/
theorem Wired.flow_scope (hwired : s.Wired) {task : Task} (htask : s.taskAt? id = some task)
    (hflow : task.isFlow = true) : (s.scope task.scope).flow = some id := by
  obtain ⟨parent, hbinding⟩ := hwired.bound htask
  obtain ⟨found, hfound, hsame⟩ := bindingAt?_eq_some_iff.mp hbinding
  rw [scope_eq_of_scopeAt? hfound]
  have hflow' := congrArg Scope.Binding.flow hsame
  rw [if_pos hflow] at hflow'
  exact hflow'

theorem Wired.scopeOf_lt (hwired : s.Wired) {task : Task} (htask : s.taskAt? id = some task) :
    (s.scopeOf id).index < s.scopes.size := by
  obtain ⟨parent, hbinding⟩ := hwired.bound htask
  rw [scopeOf_eq_of_taskAt? htask]
  exact bindingAt?_lt hbinding

theorem Wired.exists_scopeAt? (hwired : s.Wired) {task : Task}
    (htask : s.taskAt? id = some task) : ∃ found, s.scopeAt? (s.scopeOf id) = some found :=
  ⟨_, Array.getElem?_eq_getElem (hwired.scopeOf_lt htask)⟩

theorem Working.scopeOf_eq {task : Task} {flow : Flow} (hwork : s.Working scope id task flow)
    (hwired : s.Wired) : s.scopeOf id = scope :=
  hwired.scopeOf_eq hwork.bound

theorem Linked.le_around {flow : Flow} (hlinked : s.Linked id flow) :
    (s.scopeOf id).index ≤ (s.around id flow).index := by
  rw [around_eq]
  cases hpass : flow.pass with
  | none => exact Nat.le_refl _
  | some pass => exact Nat.le_of_lt (hlinked.pass hpass).2

theorem Linked.around_lt (hwired : s.Wired) {flow : Flow} (hflow : s.flowAt? id = some flow) :
    (s.around id flow).index < s.scopes.size := by
  obtain ⟨task, htask, -⟩ := flowAt?_eq_some_iff.mp hflow
  rw [around_eq]
  cases hpass : flow.pass with
  | none => exact hwired.scopeOf_lt htask
  | some pass => exact bindingAt?_lt ((hwired.linked hflow).pass hpass).1

/-- The child of a running flow, with its place. -/
theorem AtChild.places {flow : Flow} {child : Child} {inner : Task}
    (hat : s.AtChild scope id flow child inner) (hwired : s.Wired) :
    inner.scope = child.scope ∧ inner.owner = some id ∧ s.scopeOf id = scope ∧
      id.index < child.task.index ∧ scope.index ≤ (s.around id flow).index ∧
      (s.around id flow).index < child.scope.index := by
  obtain ⟨task, hwork⟩ := hat.working
  have hlinked := hwired.linked hwork.flowAt?
  obtain ⟨found, hfound, hscope, howner⟩ := hlinked.child hat.current
  rw [hat.inner] at hfound
  cases hfound
  have hat' := hwork.scopeOf_eq hwired
  exact ⟨hscope, howner, hat', (hwired.owned hat.inner howner).1,
    hat' ▸ hlinked.le_around, hlinked.inside hat.current⟩

theorem AtStep.places {flow : Flow} {step : FlowStep} (hat : s.AtStep scope id flow step)
    (hwired : s.Wired) : s.scopeOf id = scope ∧ s.flowAt? id = some flow ∧
      id.index < s.tasks.size ∧ scope.index < s.scopes.size ∧
      scope.index ≤ (s.around id flow).index ∧
      (s.around id flow).index < s.scopes.size := by
  obtain ⟨task, hwork⟩ := hat.working
  have hlinked := hwired.linked hwork.flowAt?
  have hscope := hwork.scopeOf_eq hwired
  exact ⟨hscope, hwork.flowAt?, taskAt?_lt hwork.here,
    hscope ▸ hwired.scopeOf_lt hwork.here, hscope ▸ hlinked.le_around,
    Linked.around_lt hwired hwork.flowAt?⟩

/-! ## The effect of a task -/

/-- What a task does when it runs: an update adds to the result of its scope, a break marks the flow
around it, and anything else is at most announced. -/
inductive Effected (s : Session) (task : Task) : Session → Prop
  | updated (patch : Value) : Effected s task (s.modifyScope task.scope (·.mergeResult patch))
  | broken {owner : TaskId} (howner : task.owner = some owner) :
      Effected s task (s.modifyFlow owner fun flow => { flow with broke := true })
  | announced (redirectedTo : Option String) (events : Array Event) :
      Effected s task { s with redirectedTo, events }

theorem effected {s' : Session} {task : Task} (heffect : s.effect task = .ok s') :
    s.Effected task s' := by
  unfold effect at heffect
  split at heffect
  · next instructions _ =>
      cases hpatch : Instruction.chainedPatch instructions (s.stateOf task) with
      | error error =>
          rw [hpatch] at heffect
          cases heffect
      | ok patch =>
          rw [hpatch] at heffect
          cases heffect
          exact .updated patch
  · cases heffect
    exact .announced _ _
  · split_ifs at heffect
    · cases heffect
      cases howner : task.owner with
      | none => exact .announced s.redirectedTo s.events
      | some owner => exact .broken howner
    · cases heffect
      exact .announced s.redirectedTo _
  · cases heffect
    split_ifs
    · exact .announced s.redirectedTo s.events
    · exact .announced s.redirectedTo _
  · cases heffect
    exact .announced s.redirectedTo s.events
  · cases heffect
    exact .announced s.redirectedTo s.events

theorem runChild_cases {s' : Session} {child : Child} {task : Task}
    (hrun : s.runChild id child task = (.ok (), s')) :
    s' = s ∧ task.complete = true ∨
      ∃ ran, s.Effected task ran ∧ task.complete = false ∧ s' = ran.complete child.task := by
  unfold runChild at hrun
  split_ifs at hrun with hcomplete
  · cases hrun
    exact .inl ⟨rfl, hcomplete⟩
  · split at hrun
    · next ran heffect =>
        cases hrun
        exact .inr ⟨ran, effected heffect, by simpa using hcomplete, rfl⟩
    · cases hrun

/-! ## Turns -/

theorem Wired.effected {s' : Session} {task : Task} (hwired : s.Wired)
    (heffect : s.Effected task s') : s'.Wired := by
  cases heffect with
  | updated patch => exact hwired.modifyScope _ (Scope.keepsBinding_mergeResult patch)
  | broken howner =>
      exact hwired.modifyFlow _ fun flow hflow => (hwired.linked hflow).of_same rfl (.inr rfl)
  | announced => exact hwired.of_same rfl rfl fun _ => rfl

theorem Wired.runChild {s' : Session} {child : Child} {task : Task} (hwired : s.Wired)
    (hrun : s.runChild id child task = (.ok (), s')) : s'.Wired := by
  rcases runChild_cases hrun with ⟨rfl, -⟩ | ⟨ran, heffect, -, rfl⟩
  · exact hwired
  · exact (hwired.effected heffect).complete child.task

/-- Running a child leaves the scope alone in which its flow opened it. -/
theorem AtChild.runChild_sameBelow {flow : Flow} {child : Child} {inner : Task} {ran : Session}
    (hat : s.AtChild scope id flow child inner) (hwired : s.Wired)
    (hrun : s.runChild id child inner = (.ok (), ran)) :
    SameBelow s ran id child.scope := by
  obtain ⟨hscope, howner, -, hid, -, -⟩ := hat.places hwired
  have hbase := SameBelow.refl s id child.scope
  rcases runChild_cases hrun with ⟨rfl, -⟩ | ⟨effect, heffect, -, rfl⟩
  · exact hbase
  · refine SameBelow.complete ?_ (Nat.le_of_lt hid)
    cases heffect with
    | updated patch => exact hbase.modifyScope (Nat.le_of_eq (by rw [hscope])) _
    | broken howner' =>
        rw [howner] at howner'
        cases howner'
        exact hbase.modifyFlow (Nat.le_refl _) _
    | announced => exact .of_same rfl rfl

/-- Running a child changes of the flow around it at most whether a break stops it. -/
theorem AtChild.flowAt?_runChild {flow : Flow} {child : Child} {inner : Task} {ran : Session}
    (hat : s.AtChild scope id flow child inner) (hwired : s.Wired)
    (hrun : s.runChild id child inner = (.ok (), ran)) :
    ∃ broke, ran.flowAt? id = some { flow with broke } := by
  obtain ⟨task, hwork⟩ := hat.working
  obtain ⟨-, howner, -⟩ := hat.places hwired
  rcases runChild_cases hrun with ⟨rfl, -⟩ | ⟨effect, heffect, -, rfl⟩
  · exact ⟨flow.broke, hwork.flowAt?⟩
  · rw [flowAt?_complete]
    cases heffect with
    | updated => exact ⟨flow.broke, hwork.flowAt?⟩
    | broken howner' =>
        rw [howner] at howner'
        cases howner'
        exact ⟨true, by rw [flowAt?_modifyFlow_self, hwork.flowAt?]; rfl⟩
    | announced => exact ⟨flow.broke, hwork.flowAt?⟩

/-- The scope into which a child is folded is that of the flow or of its pass. -/
theorem foldChild_eq {flow : Flow} (hflow : s.flowAt? id = some flow) (child : Child) :
    s.foldChild id child =
      ((s.modifyScope (s.around id flow) fun scope =>
        (if flow.pass.isSome then scope.mergeResult (s.scope child.scope).result
          else scope).mergeState (s.scope child.scope).result).closeScope
        child.scope).modifyFlow id fun flow => { flow with current := none } := by
  unfold foldChild
  rw [flow_eq_ok_iff.mpr hflow]
  cases hpass : flow.pass <;> simp [Except.toOption, hpass, around_eq]

theorem keepsBinding_foldChild (counts : Bool) (patch : Value) :
    Scope.KeepsBinding fun scope =>
      (if counts then scope.mergeResult patch else scope).mergeState patch := by
  intro scope
  cases counts <;> rfl

theorem Wired.foldChild (hwired : s.Wired) {flow : Flow} (hflow : s.flowAt? id = some flow)
    (child : Child) : (s.foldChild id child).Wired := by
  rw [foldChild_eq hflow]
  have hfolded := (hwired.modifyScope (s.around id flow)
    (keepsBinding_foldChild flow.pass.isSome (s.scope child.scope).result)).closeScope child.scope
  exact hfolded.modifyFlow id fun flow h => (hfolded.linked h).of_same rfl (.inl rfl)

theorem Wired.attempt (hwired : s.Wired) (id : TaskId) (flow : Flow) :
    (s.attempt id flow).Wired := by
  refine Wired.openScope ?_ (s.ambient id flow) (some (s.around id flow))
  exact hwired.modifyFlow id fun _ h => (hwired.linked h).of_same rfl (.inr rfl)

theorem taskAt?_attempt (s : Session) (id : TaskId) (flow : Flow) (other : TaskId) :
    (s.attempt id flow).taskAt? other =
      if id = other then
        (s.taskAt? other).map (Task.mapFlow fun flow => { flow with cursor := flow.cursor + 1 })
      else s.taskAt? other := by
  rw [attempt, taskAt?_openScope, taskAt?_modifyFlow]

theorem flowAt?_attempt (s : Session) (id : TaskId) (flow : Flow) (other : TaskId) :
    (s.attempt id flow).flowAt? other =
      if id = other then (s.flowAt? other).map fun flow => { flow with cursor := flow.cursor + 1 }
      else s.flowAt? other := by
  rw [attempt, flowAt?_openScope, flowAt?_modifyFlow]

/-- A flow that passes over a task only moves its cursor on. -/
theorem flowAt?_passOver (s : Session) (id : TaskId) (flow : Flow) (other : TaskId) :
    (s.passOver id flow).flowAt? other =
      if id = other then (s.flowAt? other).map fun flow => { flow with cursor := flow.cursor + 1 }
      else s.flowAt? other := by
  rw [passOver, flowAt?_closeScope, flowAt?_attempt]

@[simp] theorem attempt_others (s : Session) (id : TaskId) (flow : Flow) :
    (s.attempt id flow).repository = s.repository ∧
      (s.attempt id flow).settings = s.settings ∧
      (s.attempt id flow).root = s.root ∧
      (s.attempt id flow).active = s.active ∧
      (s.attempt id flow).history = s.history ∧
      (s.attempt id flow).redirectedTo = s.redirectedTo ∧
      (s.attempt id flow).events = s.events ∧
      (s.attempt id flow).tasks.size = s.tasks.size ∧
      (s.attempt id flow).scopes.size = s.scopes.size + 1 := by
  simp [attempt]

/-- A flow is built with nothing open. -/
theorem Flow.start_eq {definition : String} {repetition : Repetition} {settings : FlowSettings}
    {state : Value} {flow : Flow}
    (hstart : Flow.start definition repetition settings state = .ok flow) :
    flow = { definition, repetition, settings, items := flow.items } := by
  unfold Flow.start at hstart
  split at hstart
  · obtain ⟨items, -, hbuilt⟩ := exists_of_map_eq_ok hstart
    cases hbuilt
    rfl
  · cases hstart
    rfl

/-- Only the declaration of a flow is built as one. -/
theorem start_of_activity {repository : Repository} {decl : TaskDecl} {state : Value}
    {flow : Flow} (hactivity : repository.activity decl state = .ok (.flow flow)) :
    ∃ repetition settings, Flow.start decl.name repetition settings state = .ok flow := by
  unfold Repository.activity at hactivity
  split at hactivity
  · obtain ⟨screen, -, hsort⟩ := exists_of_map_eq_ok hactivity
    cases hsort
  · obtain ⟨call, -, hsort⟩ := exists_of_map_eq_ok hactivity
    cases hsort
  · split at hactivity
    · obtain ⟨built, hstart, hsort⟩ := exists_of_map_eq_ok hactivity
      cases hsort
      exact ⟨_, _, hstart⟩
    · cases hactivity
  · cases hactivity
  · cases hactivity
  · cases hactivity

def declaredTask (s : Session) (id : TaskId) (decl : TaskDecl) (activity : Activity) : Task where
  name := decl.name
  scope := s.nextScope
  owner := some id
  complete := false
  activity

theorem openChild_eq (s : Session) (id : TaskId) (flow : Flow) (decl : TaskDecl)
    (activity : Activity) :
    s.openChild id flow decl activity =
      ((s.attempt id flow).openTask (s.declaredTask id decl activity)).modifyFlow id
        fun current => { current with current := some (s.nextChild flow) } := rfl

@[simp] theorem nextTask_attempt (s : Session) (id : TaskId) (flow : Flow) :
    (s.attempt id flow).nextTask = s.nextTask := by
  simp [nextTask]

@[simp] theorem openChild_others (s : Session) (id : TaskId) (flow : Flow) (decl : TaskDecl)
    (activity : Activity) :
    (s.openChild id flow decl activity).repository = s.repository ∧
      (s.openChild id flow decl activity).settings = s.settings ∧
      (s.openChild id flow decl activity).root = s.root ∧
      (s.openChild id flow decl activity).active = s.active ∧
      (s.openChild id flow decl activity).history = s.history ∧
      (s.openChild id flow decl activity).redirectedTo = s.redirectedTo ∧
      (s.openChild id flow decl activity).events = s.events ∧
      (s.openChild id flow decl activity).tasks.size = s.tasks.size + 1 ∧
      (s.openChild id flow decl activity).scopes.size = s.scopes.size + 1 := by
  simp [openChild_eq]

theorem taskAt?_openChild (s : Session) {id : TaskId} (hid : id.index < s.tasks.size) (flow : Flow)
    (decl : TaskDecl) (activity : Activity) (other : TaskId) :
    (s.openChild id flow decl activity).taskAt? other =
      if other = s.nextTask then some (s.declaredTask id decl activity)
      else if id = other then (s.taskAt? other).map (Task.mapFlow fun current =>
        { current with cursor := current.cursor + 1, current := some (s.nextChild flow) })
      else s.taskAt? other := by
  have hne : id ≠ s.nextTask := TaskId.ne_of_lt hid
  rw [openChild_eq, taskAt?_modifyFlow, taskAt?_openTask, taskAt?_attempt, nextTask_attempt]
  by_cases hnext : other = s.nextTask
  · subst hnext
    rw [if_neg hne, if_pos rfl, if_pos rfl]
  · rw [if_neg hnext, if_neg hnext]
    by_cases hself : id = other
    · rw [if_pos hself, if_pos hself, if_pos hself, Option.map_map]
      congr 1
      funext task
      exact Task.mapFlow_mapFlow _ _ task
    · rw [if_neg hself, if_neg hself, if_neg hself]

theorem scopeAt?_attempt (s : Session) (id : TaskId) (flow : Flow) (other : ScopeId) :
    (s.attempt id flow).scopeAt? other =
      if other = s.nextScope then
        some (.opened (s.ambient id flow) (some (s.around id flow)))
      else s.scopeAt? other := by
  have hnext : (s.modifyFlow id fun flow => { flow with cursor := flow.cursor + 1 }).nextScope =
      s.nextScope := by
    simp [nextScope]
  rw [attempt, scopeAt?_openScope, hnext, scopeAt?_modifyFlow]

/-- A task that is passed over leaves the scopes that were there as they are. -/
theorem scopeAt?_passOver (s : Session) (id : TaskId) (flow : Flow) {other : ScopeId}
    (hold : other ≠ s.nextScope) : (s.passOver id flow).scopeAt? other = s.scopeAt? other := by
  rw [passOver, scopeAt?_closeScope_of_ne _ hold.symm, scopeAt?_attempt, if_neg hold]

theorem scopeAt?_openChild (s : Session) (id : TaskId) (flow : Flow) (decl : TaskDecl)
    (activity : Activity) (other : ScopeId) :
    (s.openChild id flow decl activity).scopeAt? other =
      if other = s.nextScope then
        some ((Scope.opened (s.ambient id flow) (some (s.around id flow))).bind s.nextTask
          (s.declaredTask id decl activity).isFlow)
      else s.scopeAt? other := by
  have hscope : (s.declaredTask id decl activity).scope = s.nextScope := rfl
  rw [openChild_eq, scopeAt?_modifyFlow, scopeAt?_openTask, nextTask_attempt, hscope,
    scopeAt?_attempt]
  by_cases hother : other = s.nextScope
  · subst hother
    simp
  · rw [if_neg (Ne.symm hother), if_neg hother, if_neg hother]

theorem AtStep.openChild_wired {flow : Flow} {decl : TaskDecl} {activity : Activity}
    (hat : s.AtStep scope id flow (.openTask decl)) (hwired : s.Wired)
    (hactivity : s.repository.activity decl (s.ambient id flow) = .ok activity) :
    (s.openChild id flow decl activity).Wired := by
  obtain ⟨hscope, hflow, hid, hlt, hle, haround⟩ := hat.places hwired
  obtain ⟨task, hwork⟩ := hat.working
  have hattempt := hwired.attempt id flow
  have howner : (s.attempt id flow).taskAt? id =
      some (task.mapFlow fun flow => { flow with cursor := flow.cursor + 1 }) := by
    rw [taskAt?_attempt, if_pos rfl, hwork.here]
    rfl
  have hfree : (s.attempt id flow).bindingAt? (s.declaredTask id decl activity).scope =
      some ⟨some (s.around id flow), none, none⟩ := by
    rw [attempt, bindingAt?_openScope]
    exact if_pos rfl
  have hopened : ((s.attempt id flow).openTask (s.declaredTask id decl activity)).Wired := by
    refine hattempt.openTask hfree ?_ rfl howner ?_ ?_ ?_
    · intro other found h hpass
      rw [flowAt?_attempt] at h
      have hbelow : ∀ {found : Flow}, s.flowAt? other = some found →
          found.pass ≠ some s.nextScope := by
        intro found hfound hpass
        exact absurd (bindingAt?_lt ((hwired.linked hfound).pass hpass).1) (Nat.lt_irrefl _)
      split_ifs at h
      · obtain ⟨old, hold, rfl⟩ := Option.map_eq_some_iff.mp h
        exact hbelow hold hpass
      · exact hbelow h hpass
    · rw [Task.isFlow_mapFlow, Task.isFlow, hwork.runs]
      rfl
    · rw [(Task.mapFlow_others _ task).2.1, ← scopeOf_eq_of_taskAt? hwork.here, hscope]
      exact hlt
    · intro inner hinner
      have hsort : activity = .flow inner := Task.flow?_eq_some_iff.mp hinner
      rw [hsort] at hactivity
      obtain ⟨repetition, settings, hstart⟩ := start_of_activity hactivity
      rw [Flow.start_eq hstart]
      exact ⟨rfl, rfl⟩
  have hne : id ≠ s.nextTask := TaskId.ne_of_lt hid
  have hhere : ((s.attempt id flow).openTask (s.declaredTask id decl activity)).taskAt? id =
      some (task.mapFlow fun flow => { flow with cursor := flow.cursor + 1 }) := by
    rw [taskAt?_openTask, nextTask_attempt, if_neg hne, howner]
  refine hopened.modifyFlow id fun current hcurrent => ⟨?_, ?_, ?_⟩
  · intro child hchild
    cases hchild
    refine ⟨s.declaredTask id decl activity, ?_, rfl, rfl⟩
    rw [taskAt?_openTask, nextTask_attempt]
    exact if_pos rfl
  · intro child hchild
    cases hchild
    rw [flowAt?, hhere, Option.bind_some, Task.flow?_mapFlow, hwork.runs] at hcurrent
    cases hcurrent
    rw [around_eq, scopeOf_eq_of_taskAt? hhere, (Task.mapFlow_others _ task).2.1,
      ← scopeOf_eq_of_taskAt? hwork.here]
    exact haround
  · intro pass hpass
    exact (hopened.linked hcurrent).pass hpass

theorem flowAt?_concluded (s : Session) (id : TaskId) (mark : Bool) :
    (s.concluded id mark).flowAt? id = (s.flowAt? id).map (Flow.concluded mark) := by
  cases mark with
  | false =>
      change s.flowAt? id = _
      cases s.flowAt? id <;> rfl
  | true => exact flowAt?_modifyFlow_self s id _

theorem flowAt?_published (s : Session) (id : TaskId) (mark : Bool) (result : Value) :
    (s.published id mark result).flowAt? id = (s.flowAt? id).map (Flow.concluded mark) := by
  rw [Session.published, flowAt?_complete, flowAt?_modifyScope, flowAt?_concluded]

theorem current_concluded (flow : Flow) (mark : Bool) :
    (flow.concluded mark).current = flow.current := by
  cases mark <;> rfl

theorem Wired.concluded (hwired : s.Wired) (id : TaskId) (mark : Bool) :
    (s.concluded id mark).Wired := by
  unfold Session.concluded
  split_ifs
  · exact hwired.modifyFlow id fun _ h => (hwired.linked h).of_same rfl (.inr rfl)
  · exact hwired

/-- A flow without a child has nothing to link but its pass. -/
theorem linked_of_current_eq_none {flow : Flow} (hcurrent : flow.current = none)
    (hpass : ∀ pass, flow.pass = some pass →
      s.bindingAt? pass = some ⟨some (s.scopeOf id), none, none⟩ ∧
        (s.scopeOf id).index < pass.index) : s.Linked id flow where
  child := by simp [hcurrent]
  inside := by simp [hcurrent]
  pass := hpass

theorem Wired.openPass (hwired : s.Wired) {flow : Flow} (hflow : s.flowAt? id = some flow)
    (hcurrent : flow.current = none) : (s.openPass id flow).Wired := by
  obtain ⟨task, htask, -⟩ := flowAt?_eq_some_iff.mp hflow
  have hopened : (s.openScope (flow.passStart (s.scope (s.scopeOf id)).state)
      (some (s.scopeOf id))).Wired := hwired.openScope _ _
  apply hopened.modifyFlow
  intro found hfound
  apply linked_of_current_eq_none
  · rw [flowAt?_openScope, hflow] at hfound
    cases hfound
    exact hcurrent
  · intro pass hpass
    cases hpass
    refine ⟨?_, hwired.scopeOf_lt htask⟩
    rw [bindingAt?_openScope]
    exact if_pos rfl

theorem Wired.endPass (hwired : s.Wired) {flow : Flow} (hflow : s.flowAt? id = some flow)
    (hcurrent : flow.current = none) (pass : ScopeId) (snapshot : Value) :
    (s.endPass id pass snapshot).Wired := by
  have hfolded := (hwired.modifyScope (s.scopeOf id)
    (Scope.keepsBinding_mergeState (s.scope pass).result)).closeScope pass
  apply hfolded.modifyFlow
  intro found hfound
  apply linked_of_current_eq_none
  · rw [flowAt?_closeScope, flowAt?_modifyScope, hflow] at hfound
    cases hfound
    exact hcurrent
  · intro other hpass
    cases hpass

/-- A turn keeps a session wired. -/
theorem Turned.wired {s' : Session} {result : Except Error Turn} (hturned : s.Turned result s')
    (hwired : s.Wired) : s'.Wired := by
  cases hturned with
  | idle | stuck | waiting => exact hwired
  | unbound | entered => exact hwired.of_same rfl rfl fun _ => rfl
  | @left scope _ _ _ _ _ _ _ _ _ hleave =>
      have hpopped : Session.Wired { s with active := s.active.pop } :=
        hwired.of_same rfl rfl fun _ => rfl
      unfold leave at hleave
      dsimp only at hleave
      split_ifs at hleave
      · cases hleave
        exact hpopped.closeScope scope
      · cases hleave
        exact hpopped
  | interrupted hat =>
      apply hwired.modifyFlow
      intro flow hflow
      have hlinked := hwired.linked hflow
      refine ⟨?_, ?_, fun _ h => hlinked.pass h⟩
      · intro child h
        obtain ⟨old, hold, hmarked⟩ := Option.map_eq_some_iff.mp h
        cases hmarked
        have hchild := hlinked.child hold
        exact hchild
      · intro child h
        obtain ⟨old, hold, hmarked⟩ := Option.map_eq_some_iff.mp h
        cases hmarked
        have hinside := hlinked.inside hold
        exact hinside
  | settled hat hinput hleaf hrun =>
      obtain ⟨task, hwork⟩ := hat.working
      obtain ⟨flow', hflow', -⟩ := (runChild_grows hrun).flowAt? hwork.flowAt?
      exact (hwired.runChild hrun).foldChild hflow' _
  | @dropped _ _ _ child =>
      have hclosed := hwired.closeScope child.scope
      exact hclosed.modifyFlow _ fun flow h => (hclosed.linked h).of_same rfl (.inl rfl)
  | skipped | unopened => exact (hwired.attempt _ _).closeScope _
  | opened hat _ hactivity => exact hat.openChild_wired hwired hactivity
  | passOpened hat => exact hwired.openPass (hat.places hwired).2.1 hat.current
  | passEnded hat => exact hwired.endPass (hat.places hwired).2.1 hat.current _ _
  | published hat =>
      exact ((hwired.concluded _ _).modifyScope _ (Scope.keepsBinding_mergeResult _)).complete _
  | unpublished hat => exact hwired.concluded _ true

/-! ## What a turn leaves alone -/

/-- The innermost flow of a turn that works on one. -/
theorem Working.unique {scope' : ScopeId} {id' : TaskId} {task : Task} {flow : Flow}
    (hwork : s.Working scope' id' task flow) (hhead : s.active.head? = some scope)
    (hbound : (s.scope scope).flow = some id) : scope' = scope ∧ id' = id := by
  have hscope := hwork.head
  rw [hhead] at hscope
  cases hscope
  have hid := hwork.bound
  rw [hbound] at hid
  cases hid
  exact ⟨rfl, rfl⟩

/-- A flow stays at work where only its position changes. -/
theorem Working.changed {s' : Session} {task : Task} {flow : Flow}
    (hwork : s.Working scope id task flow) (hgrows : Grows s s')
    (hredirected : s'.redirectedTo = s.redirectedTo) (hactive : s'.active = s.active)
    (change : Flow → Flow) (htask : s'.taskAt? id = (s.taskAt? id).map (Task.mapFlow change)) :
    s'.Working scope id (task.mapFlow change) (change flow) where
  running := hredirected.trans hwork.running
  head := by rw [hactive, hwork.head]
  bound := hgrows.scope_flow hwork.bound
  here := by
    rw [htask, hwork.here]
    rfl
  incomplete := (Task.mapFlow_others change task).2.2.2.trans hwork.incomplete
  runs := by
    rw [Task.flow?_mapFlow, hwork.runs]
    rfl

theorem AtStep.sameBelow_attempt {flow : Flow} {step : FlowStep}
    (hat : s.AtStep scope id flow step) (hwired : s.Wired) :
    SameBelow s (s.attempt id flow) id (s.around id flow) := by
  obtain ⟨-, -, -, -, -, haround⟩ := hat.places hwired
  refine SameBelow.openScope ?_ ?_ (s.ambient id flow) (some (s.around id flow))
  · exact (SameBelow.refl s id (s.around id flow)).modifyFlow (Nat.le_refl _) _
  · simpa using Nat.le_of_lt haround

theorem AtStep.sameBelow_passOver {flow : Flow} {step : FlowStep}
    (hat : s.AtStep scope id flow step) (hwired : s.Wired) :
    SameBelow s (s.passOver id flow) id (s.around id flow) :=
  (hat.sameBelow_attempt hwired).closeScope (Nat.le_of_lt (hat.places hwired).2.2.2.2.2)

theorem AtStep.sameBelow_openChild {flow : Flow} {step : FlowStep}
    (hat : s.AtStep scope id flow step) (hwired : s.Wired) (decl : TaskDecl)
    (activity : Activity) :
    SameBelow s (s.openChild id flow decl activity) id (s.around id flow) := by
  obtain ⟨-, -, hid, -, -, haround⟩ := hat.places hwired
  rw [openChild_eq]
  refine SameBelow.modifyFlow (.openTask (hat.sameBelow_attempt hwired) ?_ ?_) (Nat.le_refl _) _
  · simpa using Nat.le_of_lt hid
  · exact Nat.le_of_lt haround

/-- Folding a child changes the scope around it and what is younger. -/
theorem SameBelow.foldChild {s' : Session} {lower : ScopeId} {flow : Flow} {child : Child}
    (hsame : SameBelow s s' id lower) (hflow : s'.flowAt? id = some flow)
    (haround : lower.index ≤ (s'.around id flow).index)
    (hchild : lower.index ≤ child.scope.index) : SameBelow s (s'.foldChild id child) id lower := by
  rw [foldChild_eq hflow]
  exact ((hsame.modifyScope haround _).closeScope hchild).modifyFlow (Nat.le_refl _) _

theorem SameBelow.concluded (s : Session) (id : TaskId) (mark : Bool) (scope : ScopeId) :
    SameBelow s (s.concluded id mark) id scope := by
  unfold Session.concluded
  split_ifs
  · exact (SameBelow.refl s id scope).modifyFlow (Nat.le_refl _) _
  · exact .refl s id scope

/-- A turn of the innermost flow changes nothing below it. -/
theorem Turned.sameBelow {s' : Session} {result : Except Error Turn}
    (hturned : s.Turned result s') (hwired : s.Wired) (hhead : s.active.head? = some scope)
    (hbound : (s.scope scope).flow = some id) : SameBelow s s' id scope := by
  have hbase := SameBelow.refl s id scope
  have hscope := hwired.scopeOf_eq hbound
  cases hturned with
  | idle | stuck | waiting => exact hbase
  | unbound | entered => exact .of_same rfl rfl
  | left _ hhead' _ _ _ hleave =>
      rw [hhead] at hhead'
      cases hhead'
      have hpopped : SameBelow s { s with active := s.active.pop } id scope := .of_same rfl rfl
      unfold leave at hleave
      dsimp only at hleave
      split_ifs at hleave
      · cases hleave
        exact hpopped.closeScope (Nat.le_refl _)
      · cases hleave
        exact hpopped
  | interrupted hat =>
      obtain ⟨task, hwork⟩ := hat.working
      obtain ⟨rfl, rfl⟩ := hwork.unique hhead hbound
      exact hbase.modifyFlow (Nat.le_refl _) _
  | settled hat _ _ hrun =>
      obtain ⟨task, hwork⟩ := hat.working
      obtain ⟨rfl, rfl⟩ := hwork.unique hhead hbound
      obtain ⟨-, -, -, -, hle, hlt⟩ := hat.places hwired
      obtain ⟨broke, hflow⟩ := hat.flowAt?_runChild hwired hrun
      have haround := ((hwired.runChild hrun).linked hflow).le_around
      rw [(runChild_grows hrun).scopeOf hwork.here, hscope] at haround
      have hran := (hat.runChild_sameBelow hwired hrun).mono (Nat.le_refl _)
        (Nat.le_of_lt (Nat.lt_of_le_of_lt hle hlt))
      exact hran.foldChild hflow haround (by omega)
  | dropped hat =>
      obtain ⟨task, hwork⟩ := hat.working
      obtain ⟨rfl, rfl⟩ := hwork.unique hhead hbound
      obtain ⟨-, -, -, -, hle, hlt⟩ := hat.places hwired
      exact (hbase.closeScope (by omega)).modifyFlow (Nat.le_refl _) _
  | skipped hat | unopened hat =>
      obtain ⟨task, hwork⟩ := hat.working
      obtain ⟨rfl, rfl⟩ := hwork.unique hhead hbound
      exact (hat.sameBelow_passOver hwired).mono (Nat.le_refl _) (hat.places hwired).2.2.2.2.1
  | opened hat =>
      obtain ⟨task, hwork⟩ := hat.working
      obtain ⟨rfl, rfl⟩ := hwork.unique hhead hbound
      exact (hat.sameBelow_openChild hwired _ _).mono (Nat.le_refl _)
        (hat.places hwired).2.2.2.2.1
  | passOpened hat =>
      obtain ⟨task, hwork⟩ := hat.working
      obtain ⟨rfl, rfl⟩ := hwork.unique hhead hbound
      exact (hbase.openScope (Nat.le_of_lt (hat.places hwired).2.2.2.1) _ _).modifyFlow
        (Nat.le_refl _) _
  | passEnded hat hpass =>
      obtain ⟨task, hwork⟩ := hat.working
      obtain ⟨rfl, rfl⟩ := hwork.unique hhead hbound
      have hbelow := ((hwired.linked hwork.flowAt?).pass hpass).2
      rw [hscope] at hbelow
      unfold endPass
      rw [hscope]
      exact ((hbase.modifyScope (Nat.le_refl _) _).closeScope (Nat.le_of_lt hbelow)).modifyFlow
        (Nat.le_refl _) _
  | published hat =>
      obtain ⟨task, hwork⟩ := hat.working
      obtain ⟨rfl, rfl⟩ := hwork.unique hhead hbound
      unfold Session.published
      rw [hscope]
      exact ((SameBelow.concluded s _ _ _).modifyScope (Nat.le_refl _) _).complete (Nat.le_refl _)
  | unpublished hat =>
      obtain ⟨task, hwork⟩ := hat.working
      obtain ⟨rfl, rfl⟩ := hwork.unique hhead hbound
      exact SameBelow.concluded s _ true _

theorem AtChild.runChild_flowAt? {flow : Flow} {child : Child} {inner : Task} {ran : Session}
    (hat : s.AtChild scope id flow child inner) (hwired : s.Wired)
    (hrun : s.runChild id child inner = (.ok (), ran)) {other : TaskId} (hne : id ≠ other) :
    ran.flowAt? other = s.flowAt? other := by
  obtain ⟨-, howner, -⟩ := hat.places hwired
  rcases runChild_cases hrun with ⟨rfl, -⟩ | ⟨effect, heffect, -, rfl⟩
  · rfl
  · rw [flowAt?_complete]
    cases heffect with
    | updated => rfl
    | broken howner' =>
        rw [howner] at howner'
        cases howner'
        rw [flowAt?_modifyFlow, if_neg hne]
    | announced => rfl

/-- A turn changes no flow but the innermost one. -/
theorem Turned.flowAt?_of_ne {s' : Session} {result : Except Error Turn}
    (hturned : s.Turned result s') (hwired : s.Wired) (hhead : s.active.head? = some scope)
    (hbound : (s.scope scope).flow = some id) {other : TaskId} (hne : id ≠ other)
    (hother : other ≠ s.nextTask) : s'.flowAt? other = s.flowAt? other := by
  have hmodified : ∀ (r : Session) (change : Flow → Flow),
      (r.modifyFlow id change).flowAt? other = r.flowAt? other := by
    intro r change
    rw [flowAt?_modifyFlow, if_neg hne]
  have hconcluded : ∀ mark, (s.concluded id mark).flowAt? other = s.flowAt? other := by
    intro mark
    unfold concluded
    split_ifs
    · exact hmodified s _
    · rfl
  cases hturned with
  | idle | stuck | waiting | unbound | entered => rfl
  | left _ _ _ _ _ hleave =>
      unfold leave at hleave
      dsimp only at hleave
      split_ifs at hleave <;> cases hleave <;> rfl
  | interrupted hat =>
      obtain ⟨task, hwork⟩ := hat.working
      obtain ⟨rfl, rfl⟩ := hwork.unique hhead hbound
      exact hmodified s _
  | settled hat _ _ hrun =>
      obtain ⟨task, hwork⟩ := hat.working
      obtain ⟨rfl, rfl⟩ := hwork.unique hhead hbound
      obtain ⟨flow', hflow', -⟩ := (runChild_grows hrun).flowAt? hwork.flowAt?
      rw [foldChild_eq hflow', hmodified, flowAt?_closeScope, flowAt?_modifyScope]
      exact hat.runChild_flowAt? hwired hrun hne
  | dropped hat =>
      obtain ⟨task, hwork⟩ := hat.working
      obtain ⟨rfl, rfl⟩ := hwork.unique hhead hbound
      exact hmodified _ _
  | skipped hat | unopened hat =>
      obtain ⟨task, hwork⟩ := hat.working
      obtain ⟨rfl, rfl⟩ := hwork.unique hhead hbound
      rw [flowAt?_passOver, if_neg hne]
  | opened hat =>
      obtain ⟨task, hwork⟩ := hat.working
      obtain ⟨rfl, rfl⟩ := hwork.unique hhead hbound
      rw [openChild_eq, hmodified, flowAt?_openTask, nextTask_attempt, if_neg hother,
        flowAt?_attempt, if_neg hne]
  | passOpened hat =>
      obtain ⟨task, hwork⟩ := hat.working
      obtain ⟨rfl, rfl⟩ := hwork.unique hhead hbound
      exact hmodified _ _
  | passEnded hat =>
      obtain ⟨task, hwork⟩ := hat.working
      obtain ⟨rfl, rfl⟩ := hwork.unique hhead hbound
      exact hmodified _ _
  | published hat =>
      obtain ⟨task, hwork⟩ := hat.working
      obtain ⟨rfl, rfl⟩ := hwork.unique hhead hbound
      rw [Session.published, flowAt?_complete, flowAt?_modifyScope, hconcluded]
  | unpublished hat =>
      obtain ⟨task, hwork⟩ := hat.working
      obtain ⟨rfl, rfl⟩ := hwork.unique hhead hbound
      exact hconcluded true

/-- Only opening a declared task adds to the tasks, and adds one of the innermost flow. -/
theorem Turned.tasks_size {s' : Session} {result : Except Error Turn}
    (hturned : s.Turned result s') : s'.tasks.size = s.tasks.size ∨
      ∃ scope id flow decl activity, s.AtStep scope id flow (.openTask decl) ∧
        s.repository.activity decl (s.ambient id flow) = .ok activity ∧
        result = .ok .again ∧ s' = s.openChild id flow decl activity := by
  cases hturned with
  | left _ _ _ _ _ hleave =>
      unfold leave at hleave
      dsimp only at hleave
      split_ifs at hleave <;> cases hleave <;> exact .inl rfl
  | settled hat _ _ hrun =>
      obtain ⟨task, hwork⟩ := hat.working
      obtain ⟨flow', hflow', -⟩ := (runChild_grows hrun).flowAt? hwork.flowAt?
      left
      rw [foldChild_eq hflow']
      rcases runChild_cases hrun with ⟨rfl, -⟩ | ⟨effect, heffect, -, rfl⟩
      · simp
      · cases heffect <;> simp
  | opened hat _ hactivity => exact .inr ⟨_, _, _, _, _, hat, hactivity, rfl, rfl⟩
  | @published _ id _ _ mark =>
      left
      cases mark <;> simp [Session.published, concluded]
  | @unpublished _ id => exact .inl (by simp [concluded])
  | _ => exact .inl (by simp [passOver, dropChild, openPass, endPass, markInterrupted])

end Session

end Workflow
