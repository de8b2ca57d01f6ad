import Workflow.Proofs.Session.Growth

/-!
# How a session is wired

Tasks, scopes and flows name each other.  `Session.Wired` says that they do so consistently: every
task has a scope of its own and the scope knows it, only the root has no owner, an owner is an older
flow with an older scope, and what a flow has open was opened by it, `Session.Linked`.

A session is wired when it starts, and every move keeps it so.  Only the bindings of scopes matter
for this and never their trees.
-/

namespace Workflow

namespace Session

def bindingAt? (s : Session) (scope : ScopeId) : Option Scope.Binding :=
  (s.scopeAt? scope).map Scope.binding

theorem bindingAt?_eq_some_iff {s : Session} {scope : ScopeId} {binding : Scope.Binding} :
    s.bindingAt? scope = some binding ↔
      ∃ found, s.scopeAt? scope = some found ∧ found.binding = binding :=
  Option.map_eq_some_iff

theorem bindingAt?_modifyScope (s : Session) (scope : ScopeId) {change : Scope → Scope}
    (hchange : Scope.KeepsBinding change) (other : ScopeId) :
    (s.modifyScope scope change).bindingAt? other = s.bindingAt? other := by
  simp only [bindingAt?, scopeAt?_modifyScope]
  split_ifs
  · cases s.scopeAt? other with
    | none => rfl
    | some found => simp [hchange found]
  · rfl

@[simp] theorem bindingAt?_closeScope (s : Session) (scope other : ScopeId) :
    (s.closeScope scope).bindingAt? other = s.bindingAt? other :=
  bindingAt?_modifyScope s scope (Scope.keepsBinding_release _) other

@[simp] theorem bindingAt?_closeAll (s : Session) (scopes : List ScopeId) (scope : ScopeId) :
    (s.closeAll scopes).bindingAt? scope = s.bindingAt? scope := by
  induction scopes generalizing s with
  | nil => rfl
  | cons first scopes ih => exact (ih (s.closeScope first)).trans (bindingAt?_closeScope s _ _)

theorem bindingAt?_openScope (s : Session) (state : Value) (parent : Option ScopeId)
    (scope : ScopeId) :
    (s.openScope state parent).bindingAt? scope =
      if scope = s.nextScope then some ⟨parent, none, none⟩ else s.bindingAt? scope := by
  simp only [bindingAt?, scopeAt?_openScope]
  split_ifs <;> rfl

theorem bindingAt?_lt {s : Session} {scope : ScopeId} {binding : Scope.Binding}
    (hbinding : s.bindingAt? scope = some binding) : scope.index < s.scopes.size := by
  obtain ⟨found, hfound, -⟩ := bindingAt?_eq_some_iff.mp hbinding
  exact scopeAt?_lt hfound

theorem Grows.scope_flow {s s' : Session} (hgrows : Grows s s') {scope : ScopeId} {id : TaskId}
    (hbound : (s.scope scope).flow = some id) : (s'.scope scope).flow = some id := by
  cases hfound : s.scopeAt? scope with
  | none =>
      rw [scope_eq, hfound] at hbound
      cases hbound
  | some found =>
      rw [scope_eq_of_scopeAt? hfound] at hbound
      obtain ⟨found', hfound', hsame⟩ := hgrows.scopes hfound
      rw [scope_eq_of_scopeAt? hfound']
      exact (congrArg Scope.Binding.flow hsame).trans hbound

theorem scopeOf_eq (s : Session) (id : TaskId) :
    s.scopeOf id = ((s.taskAt? id).map Task.scope).getD default := rfl

theorem Grows.scopeOf {s s' : Session} (hgrows : Grows s s') {id : TaskId} {task : Task}
    (htask : s.taskAt? id = some task) : s'.scopeOf id = s.scopeOf id := by
  obtain ⟨task', htask', hskeleton, -⟩ := hgrows.tasks htask
  rw [scopeOf_eq_of_taskAt? htask', scopeOf_eq_of_taskAt? htask]
  exact Task.scope_of_skeleton hskeleton

@[simp] theorem scopeOf_modifyFlow (s : Session) (id : TaskId) (change : Flow → Flow)
    (other : TaskId) : (s.modifyFlow id change).scopeOf other = s.scopeOf other := by
  rw [scopeOf_eq, scopeOf_eq, taskAt?_modifyFlow]
  split_ifs
  · cases s.taskAt? other <;> simp
  · rfl

@[simp] theorem scopeOf_complete (s : Session) (id other : TaskId) :
    (s.complete id).scopeOf other = s.scopeOf other := by
  rw [scopeOf_eq, scopeOf_eq, taskAt?_complete]
  split_ifs
  · cases s.taskAt? other <;> simp
  · rfl

/-! ## Links and bindings -/

/-- What a flow has open was opened by it: its child is a task of its own, and its pass is a scope
without a task inside the scope of the flow. -/
structure Linked (s : Session) (id : TaskId) (flow : Flow) : Prop where
  child : ∀ ⦃child⦄, flow.current = some child → ∃ inner, s.taskAt? child.task = some inner ∧
    inner.scope = child.scope ∧ inner.owner = some id
  inside : ∀ ⦃child⦄, flow.current = some child →
    (s.around id flow).index < child.scope.index
  pass : ∀ ⦃pass⦄, flow.pass = some pass →
    s.bindingAt? pass = some ⟨some (s.scopeOf id), none, none⟩ ∧
      (s.scopeOf id).index < pass.index

/-- The tasks and the scopes of a session name each other consistently. -/
structure Wired (s : Session) : Prop where
  bound : ∀ ⦃id task⦄, s.taskAt? id = some task → ∃ parent,
    s.bindingAt? task.scope = some ⟨parent, some id, if task.isFlow then some id else none⟩
  taken : ∀ ⦃scope binding id⦄, s.bindingAt? scope = some binding → binding.task = some id →
    ∃ task, s.taskAt? id = some task ∧ task.scope = scope
  free : ∀ ⦃scope binding⦄, s.bindingAt? scope = some binding → binding.task = none →
    binding.flow = none
  owned : ∀ ⦃id task owner⦄, s.taskAt? id = some task → task.owner = some owner →
    owner.index < id.index ∧ ∃ outer, s.taskAt? owner = some outer ∧ outer.isFlow = true ∧
      outer.scope.index < task.scope.index
  rooted : ∃ task, s.taskAt? s.root = some task ∧ task.isFlow = true ∧ task.owner = none
  ownerless : ∀ ⦃id task⦄, s.taskAt? id = some task → task.owner = none → id = s.root
  linked : ∀ ⦃id flow⦄, s.flowAt? id = some flow → s.Linked id flow

theorem around_eq (s : Session) (id : TaskId) (flow : Flow) :
    s.around id flow = flow.pass.getD (s.scopeOf id) := rfl

theorem around_congr {s s' : Session} {id : TaskId} {flow flow' : Flow}
    (hpass : flow'.pass = flow.pass) (hscope : s'.scopeOf id = s.scopeOf id) :
    s'.around id flow' = s.around id flow := by
  rw [around_eq, around_eq, hpass, hscope]

/-- Links are about the child and the pass of a flow, and about nothing else it holds. -/
theorem Linked.of_same {s : Session} {id : TaskId} {flow flow' : Flow}
    (hlinked : s.Linked id flow) (hpass : flow'.pass = flow.pass)
    (hcurrent : flow'.current = none ∨ flow'.current = flow.current) : s.Linked id flow' := by
  have hchild : ∀ {child}, flow'.current = some child → flow.current = some child := by
    intro child h
    rcases hcurrent with hnone | hsame
    · rw [hnone] at h
      cases h
    · exact hsame ▸ h
  constructor
  · intro child h
    exact hlinked.child (hchild h)
  · intro child h
    rw [around_eq, hpass]
    exact hlinked.inside (hchild h)
  · intro pass h
    exact hlinked.pass (hpass ▸ h)

/-! ## Elementary steps keep a session wired -/

variable {s : Session}

/-- Wiring is about tasks and bindings only. -/
theorem Wired.of_same {s' : Session} (hwired : s.Wired)
    (htasks : s'.tasks = s.tasks) (hroot : s'.root = s.root)
    (hbindings : ∀ scope, s'.bindingAt? scope = s.bindingAt? scope) : s'.Wired := by
  have htask : ∀ id, s'.taskAt? id = s.taskAt? id := by simp [taskAt?, htasks]
  have hflow : ∀ id, s'.flowAt? id = s.flowAt? id := by simp [flowAt?, htask]
  have hscope : ∀ id, s'.scopeOf id = s.scopeOf id := by simp [scopeOf_eq, htask]
  constructor
  · simpa only [htask, hbindings] using hwired.bound
  · simpa only [htask, hbindings] using hwired.taken
  · simpa only [hbindings] using hwired.free
  · simpa only [htask] using hwired.owned
  · simpa only [htask, hroot] using hwired.rooted
  · simpa only [htask, hroot] using hwired.ownerless
  · intro id flow h
    have hlinked := hwired.linked ((hflow id).symm.trans h)
    constructor
    · simpa only [htask] using hlinked.child
    · simpa only [around_eq, hscope] using hlinked.inside
    · simpa only [hbindings, hscope] using hlinked.pass

theorem Wired.modifyScope (hwired : s.Wired) (scope : ScopeId) {change : Scope → Scope}
    (hchange : Scope.KeepsBinding change) : (s.modifyScope scope change).Wired :=
  hwired.of_same rfl rfl (bindingAt?_modifyScope s scope hchange)

theorem Wired.closeScope (hwired : s.Wired) (scope : ScopeId) : (s.closeScope scope).Wired :=
  hwired.modifyScope scope (Scope.keepsBinding_release _)

/-- Changing a task keeps a session wired if the task keeps its scope, its owner and its links. -/
theorem Wired.modifyTask (hwired : s.Wired) (id : TaskId) {change : Task → Task}
    (hchange : ∀ task, s.taskAt? id = some task → (change task).scope = task.scope ∧
      (change task).owner = task.owner ∧ (change task).isFlow = task.isFlow)
    (hlinked : ∀ task flow, s.taskAt? id = some task → (change task).flow? = some flow →
      s.Linked id flow) : (s.modifyTask id change).Wired := by
  have hgets : ∀ other task', (s.modifyTask id change).taskAt? other = some task' →
      ∃ task, s.taskAt? other = some task ∧ task'.scope = task.scope ∧
        task'.owner = task.owner ∧ task'.isFlow = task.isFlow := by
    intro other task' h
    rw [taskAt?_modifyTask] at h
    split_ifs at h with heq
    · obtain ⟨task, htask, rfl⟩ := Option.map_eq_some_iff.mp h
      exact ⟨task, htask, hchange task (heq ▸ htask)⟩
    · exact ⟨task', h, rfl, rfl, rfl⟩
  have hkeeps : ∀ other task, s.taskAt? other = some task →
      ∃ task', (s.modifyTask id change).taskAt? other = some task' ∧
        task'.scope = task.scope ∧ task'.owner = task.owner ∧ task'.isFlow = task.isFlow := by
    intro other task h
    rw [taskAt?_modifyTask, h]
    split_ifs with heq
    · exact ⟨change task, rfl, hchange task (heq ▸ h)⟩
    · exact ⟨task, rfl, rfl, rfl, rfl⟩
  have hscope : ∀ other, (s.modifyTask id change).scopeOf other = s.scopeOf other := by
    intro other
    cases h : s.taskAt? other with
    | none =>
        have hnone : (s.modifyTask id change).taskAt? other = none := by
          rw [taskAt?_modifyTask, h]
          simp
        rw [scopeOf_eq, scopeOf_eq, h, hnone]
    | some task =>
        obtain ⟨task', h', hsame, -, -⟩ := hkeeps other task h
        rw [scopeOf_eq_of_taskAt? h', scopeOf_eq_of_taskAt? h, hsame]
  constructor
  · intro other task' h
    obtain ⟨task, htask, hsame, -, hflow⟩ := hgets other task' h
    rw [hsame, hflow]
    exact hwired.bound htask
  · intro scope binding other hbinding htaken
    obtain ⟨task, htask, hsame⟩ := hwired.taken hbinding htaken
    obtain ⟨task', htask', hsame', -, -⟩ := hkeeps other task htask
    exact ⟨task', htask', hsame'.trans hsame⟩
  · exact hwired.free
  · intro other task' owner h howner
    obtain ⟨task, htask, hsame, hsameOwner, -⟩ := hgets other task' h
    obtain ⟨hbelow, outer, houter, hflow, hinside⟩ := hwired.owned htask (hsameOwner ▸ howner)
    obtain ⟨outer', houter', hsame', -, hflow'⟩ := hkeeps owner outer houter
    exact ⟨hbelow, outer', houter', hflow'.trans hflow, by rw [hsame, hsame']; exact hinside⟩
  · obtain ⟨task, htask, hflow, howner⟩ := hwired.rooted
    obtain ⟨task', htask', -, hsameOwner, hsameFlow⟩ := hkeeps _ task htask
    exact ⟨task', htask', hsameFlow.trans hflow, hsameOwner.trans howner⟩
  · intro other task' h howner
    obtain ⟨task, htask, -, hsameOwner, -⟩ := hgets other task' h
    exact hwired.ownerless htask (hsameOwner ▸ howner)
  · intro other flow h
    have hbefore : s.Linked other flow := by
      obtain ⟨task', htask', hruns⟩ := flowAt?_eq_some_iff.mp h
      rw [taskAt?_modifyTask] at htask'
      split_ifs at htask' with heq
      · subst heq
        obtain ⟨task, htask, rfl⟩ := Option.map_eq_some_iff.mp htask'
        exact hlinked task flow htask hruns
      · exact hwired.linked (flowAt?_eq_some_iff.mpr ⟨task', htask', hruns⟩)
    constructor
    · intro child hcurrent
      obtain ⟨inner, hinner, hinnerScope, howner⟩ := hbefore.child hcurrent
      obtain ⟨inner', hinner', hsame, hsameOwner, -⟩ := hkeeps _ inner hinner
      exact ⟨inner', hinner', hsame.trans hinnerScope, hsameOwner.trans howner⟩
    · simpa only [around_eq, hscope] using hbefore.inside
    · intro pass hpass
      rw [hscope]
      exact hbefore.pass hpass

theorem Wired.modifyFlow (hwired : s.Wired) (id : TaskId) {change : Flow → Flow}
    (hlinked : ∀ flow, s.flowAt? id = some flow → s.Linked id (change flow)) :
    (s.modifyFlow id change).Wired := by
  refine hwired.modifyTask id (fun task _ => ?_) fun task flow htask hruns => ?_
  · have hothers := Task.mapFlow_others change task
    exact ⟨hothers.2.1, hothers.2.2.1, Task.isFlow_mapFlow change task⟩
  · have hmapped : (task.mapFlow change).flow? = some flow := hruns
    rw [Task.flow?_mapFlow] at hmapped
    obtain ⟨old, hold, rfl⟩ := Option.map_eq_some_iff.mp hmapped
    exact hlinked old (flowAt?_eq_some_iff.mpr ⟨task, htask, hold⟩)

theorem Wired.complete (hwired : s.Wired) (id : TaskId) : (s.complete id).Wired :=
  hwired.modifyTask id (fun _ _ => ⟨rfl, rfl, rfl⟩) fun task _ htask hruns =>
    hwired.linked (flowAt?_eq_some_iff.mpr ⟨task, htask, hruns⟩)

theorem Wired.openScope (hwired : s.Wired) (state : Value) (parent : Option ScopeId) :
    (s.openScope state parent).Wired := by
  have hnext : s.bindingAt? s.nextScope = none := by
    rw [bindingAt?, scopeAt?_nextScope]
    rfl
  have hkeeps : ∀ {scope binding}, s.bindingAt? scope = some binding →
      (s.openScope state parent).bindingAt? scope = some binding := by
    intro scope binding h
    rw [bindingAt?_openScope, if_neg, h]
    rintro rfl
    rw [hnext] at h
    cases h
  have hgets : ∀ {scope binding}, (s.openScope state parent).bindingAt? scope = some binding →
      binding = ⟨parent, none, none⟩ ∨ s.bindingAt? scope = some binding := by
    intro scope binding h
    rw [bindingAt?_openScope] at h
    split_ifs at h
    · exact .inl (Option.some.inj h).symm
    · exact .inr h
  refine ⟨?_, ?_, ?_, hwired.owned, hwired.rooted, hwired.ownerless, ?_⟩
  · intro id task h
    obtain ⟨around, hbinding⟩ := hwired.bound h
    exact ⟨around, hkeeps hbinding⟩
  · intro scope binding id h htaken
    rcases hgets h with rfl | hbefore
    · cases htaken
    · exact hwired.taken hbefore htaken
  · intro scope binding h hfree
    rcases hgets h with rfl | hbefore
    · rfl
    · exact hwired.free hbefore hfree
  · intro id flow h
    have hlinked := hwired.linked h
    exact ⟨hlinked.child, hlinked.inside,
      fun _ hpass => ⟨hkeeps (hlinked.pass hpass).1, (hlinked.pass hpass).2⟩⟩

/-- Opening a task keeps a session wired if it goes to a scope without a task, and a flow older than
that scope owns it.  A flow must not have anything open yet. -/
theorem Wired.openTask (hwired : s.Wired) {task outer : Task} {owner : TaskId}
    {parent : Option ScopeId}
    (hfree : s.bindingAt? task.scope = some ⟨parent, none, none⟩)
    (hunlinked : ∀ {id flow}, s.flowAt? id = some flow → flow.pass ≠ some task.scope)
    (howner : task.owner = some owner) (houter : s.taskAt? owner = some outer)
    (hflow : outer.isFlow = true) (hinside : outer.scope.index < task.scope.index)
    (hfresh : ∀ flow, task.flow? = some flow → flow.current = none ∧ flow.pass = none) :
    (s.openTask task).Wired := by
  have hnext : s.taskAt? s.nextTask = none := taskAt?_nextTask s
  have htask : ∀ {id found}, s.taskAt? id = some found →
      (s.openTask task).taskAt? id = some found := by
    intro id found h
    rw [taskAt?_openTask, if_neg, h]
    rintro rfl
    rw [hnext] at h
    cases h
  have hbinding : ∀ scope, (s.openTask task).bindingAt? scope =
      if task.scope = scope then
        some ⟨parent, some s.nextTask, if task.isFlow then some s.nextTask else none⟩
      else s.bindingAt? scope := by
    intro scope
    rw [bindingAt?, scopeAt?_openTask]
    by_cases hscope : task.scope = scope
    · subst hscope
      obtain ⟨found, hfound, hbefore⟩ := bindingAt?_eq_some_iff.mp hfree
      have hparent : found.parent = parent := congrArg Scope.Binding.parent hbefore
      have hnoFlow : found.flow = none := congrArg Scope.Binding.flow hbefore
      rw [if_pos rfl, if_pos rfl, hfound]
      simp [Scope.binding, Scope.bind, hparent, hnoFlow]
    · rw [if_neg hscope, if_neg hscope]
      rfl
  have hother : ∀ {scope binding}, s.bindingAt? scope = some binding → binding.task.isSome = true →
      task.scope ≠ scope := by
    rintro scope binding h hsome rfl
    rw [hfree] at h
    cases h
    cases hsome
  constructor
  · intro id found h
    rw [taskAt?_openTask] at h
    split_ifs at h with heq
    · cases h
      refine ⟨parent, ?_⟩
      rw [hbinding, if_pos rfl, heq]
    · obtain ⟨around, hbefore⟩ := hwired.bound h
      refine ⟨around, ?_⟩
      rw [hbinding, if_neg (hother hbefore rfl), hbefore]
  · intro scope binding id h htaken
    rw [hbinding] at h
    by_cases heq : task.scope = scope
    · rw [if_pos heq] at h
      cases h
      cases htaken
      exact ⟨task, by rw [taskAt?_openTask, if_pos rfl], heq⟩
    · rw [if_neg heq] at h
      obtain ⟨found, hfound, hscope⟩ := hwired.taken h htaken
      exact ⟨found, htask hfound, hscope⟩
  · intro scope binding h hnone
    rw [hbinding] at h
    by_cases heq : task.scope = scope
    · rw [if_pos heq] at h
      cases h
      cases hnone
    · rw [if_neg heq] at h
      exact hwired.free h hnone
  · intro id found other h hfound
    rw [taskAt?_openTask] at h
    split_ifs at h with heq
    · cases h
      rw [howner] at hfound
      cases hfound
      refine ⟨?_, outer, htask houter, hflow, hinside⟩
      rw [heq]
      exact taskAt?_lt houter
    · obtain ⟨hbelow, found', hfound', hrest⟩ := hwired.owned h hfound
      exact ⟨hbelow, found', htask hfound', hrest⟩
  · obtain ⟨root, hroot, hrest⟩ := hwired.rooted
    exact ⟨root, htask hroot, hrest⟩
  · intro id found h hnone
    rw [taskAt?_openTask] at h
    split_ifs at h with heq
    · cases h
      rw [howner] at hnone
      cases hnone
    · exact hwired.ownerless h hnone
  · intro id flow h
    rw [flowAt?_openTask] at h
    split_ifs at h with heq
    · obtain ⟨hcurrent, hpass⟩ := hfresh flow h
      constructor <;> simp [hcurrent, hpass]
    · obtain ⟨found, hfound, -⟩ := flowAt?_eq_some_iff.mp h
      have hlinked := hwired.linked h
      have hscope : (s.openTask task).scopeOf id = s.scopeOf id := by
        rw [scopeOf_eq_of_taskAt? (htask hfound), scopeOf_eq_of_taskAt? hfound]
      constructor
      · intro child hcurrent
        obtain ⟨inner, hinner, hrest⟩ := hlinked.child hcurrent
        exact ⟨inner, htask hinner, hrest⟩
      · simpa only [around_eq, hscope] using hlinked.inside
      · intro pass hpass
        have hne : task.scope ≠ pass := by
          rintro rfl
          exact hunlinked h hpass
        rw [hbinding, if_neg hne, hscope]
        exact hlinked.pass hpass

end Session

end Workflow
