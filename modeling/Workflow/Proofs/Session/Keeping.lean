import Workflow.Proofs.Session.Soundness

/-!
# What a flow keeps while it has a child open

A flow that is being run and has a child open does not change until it gives the child up: it
stands where it stood, and so do the trees it opens its tasks in, `Session.Keeps`.  Turns work on
the innermost flow, acts on tasks that are no flows, and going back cuts flows off.

So the declaration that the child was opened from would still open the same child,
`Session.Undisturbed`.  A nested flow that is open and was not entered yet is as it was built,
`Session.Untouched`.  In particular it has nothing open, `Session.Pristine`, and this is why a flow
that was cut off is never run again.
-/

namespace Workflow

namespace Session

/-- The flow is among those being run. -/
def Running (s : Session) (id : TaskId) : Prop :=
  ∃ scope outer, scope :: outer <:+ s.active.toList ∧ s.Nested id (scope :: outer)

section

variable {s s' : Session} {id : TaskId}

theorem Nested.running {scopes : List ScopeId} (hnested : s.Nested id scopes) (hwired : s.Wired)
    (hsuffix : scopes <:+ s.active.toList) : s.Running id := by
  obtain ⟨outer, heq⟩ := hnested.eq_cons hwired
  rw [heq] at hnested hsuffix
  exact ⟨_, outer, hsuffix, hnested⟩

theorem Running.nonempty (hrunning : s.Running id) : s.active.toList ≠ [] := by
  obtain ⟨scope, outer, hsuffix, -⟩ := hrunning
  intro hempty
  rw [hempty] at hsuffix
  simp at hsuffix

/-- A flow on a chain is the inner end of it, or it has a flow open that is on the chain too. -/
theorem Nested.cases_of_suffix {innermost : TaskId} {scopes outer : List ScopeId} {scope : ScopeId}
    (hnested : s.Nested innermost scopes) (hwired : s.Wired) (hself : s.Nested id (scope :: outer))
    (hsuffix : scope :: outer <:+ scopes) :
    id = innermost ∨ ∃ task flow child inner, s.taskAt? id = some task ∧ task.complete = false ∧
      task.flow? = some flow ∧ flow.current = some child ∧ s.taskAt? child.task = some inner ∧
      inner.isFlow = true ∧ child.scope.index ≤ (s.scopeOf innermost).index ∧
      id.index < innermost.index := by
  have hbound := hself.flow_scope hwired
  have hhere : ∀ {other scopes}, s.Nested other scopes → scope :: outer = scopes → id = other := by
    rintro other scopes hother rfl
    have hsame := hother.flow_scope hwired
    rw [hbound] at hsame
    exact Option.some.inj hsame
  induction hnested with
  | root =>
      rcases List.suffix_cons_iff.mp hsuffix with heq | hsuffix
      · exact .inl (hhere .root heq)
      · simp at hsuffix
  | @child id' scopes task flow child inner houter htask hopen hflow hcurrent hinner hisFlow ih =>
      rcases List.suffix_cons_iff.mp hsuffix with heq | hsuffix
      · exact .inl (hhere (.child houter htask hopen hflow hcurrent hinner hisFlow) heq)
      · obtain ⟨hscope, -, hlt, hinside⟩ := hwired.child_places
          (flowAt?_eq_some_iff.mpr ⟨task, htask, hflow⟩) hcurrent hinner
        rw [scopeOf_eq_of_taskAt? hinner, hscope]
        rcases ih hsuffix with rfl |
          ⟨task', flow', child', inner', htask', hopen', hflow', hcurrent', hinner', hisFlow', hle,
            hlt'⟩
        · exact .inr ⟨task, flow, child, inner, htask, hopen, hflow, hcurrent, hinner, hisFlow,
            Nat.le_refl _, hlt⟩
        · exact .inr ⟨task', flow', child', inner', htask', hopen', hflow', hcurrent', hinner',
            hisFlow', by omega, by omega⟩

/-- What is on the stack of a session was running before, if the scopes were on the stack. -/
theorem running_of_suffix {scope : ScopeId} {outer : List ScopeId} (hsound : s.Sound)
    (hgrows : Grows s s') (hwired' : s'.Wired) (hsuffix : scope :: outer <:+ s.active.toList)
    (hnested : s'.Nested id (scope :: outer)) : s.Running id := by
  rcases hsound.nested with hempty | ⟨innermost, hchain⟩
  · rw [hempty] at hsuffix
    simp at hsuffix
  · obtain ⟨other, hother⟩ := hchain.of_suffix hsuffix
    have hsame := hgrows.scope_flow (hother.flow_scope hsound.wired)
    rw [hnested.flow_scope hwired'] at hsame
    cases hsame
    exact ⟨scope, outer, hsuffix, hother⟩

end

/-! ## Keeping a child -/

/-- A running flow keeps its child: it changes at most in that the child was handed out for its
breakpoint, and the trees it opens its tasks in do not change, nor does the scope of a child that
waits for nothing. -/
structure Keeps (s s' : Session) (id : TaskId) (flow flow' : Flow) (child : Child) : Prop where
  before : s.flowAt? id = some flow
  running : s.Running id
  current : flow.current = some child
  same : flow' = flow ∨ flow' = flow.interrupted
  around : s'.scopeAt? (s.around id flow) = s.scopeAt? (s.around id flow)
  leaf : ∀ inner, s.taskAt? child.task = some inner → inner.takesInput = false →
    inner.isFlow = false → s'.scopeAt? child.scope = s.scopeAt? child.scope

/-- The flow opens its next declared task. -/
def Opens (s s' : Session) (id : TaskId) : Prop :=
  ∃ scope flow decl activity, s.AtStep scope id flow (.openTask decl) ∧
    s.shows id flow decl = .ok true ∧
    s.repository.activity decl (s.ambient id flow) = .ok activity ∧
    s' = s.openChild id flow decl activity

/-- A nested flow that the innermost flow has open, and that is not complete, is still one of which
`P` holds. -/
def Untouched (P : Flow → Prop) (s : Session) : Prop :=
  ∀ id flow child inner nested, s.Nested id s.active.toList → s.flowAt? id = some flow →
    flow.current = some child → s.taskAt? child.task = some inner → inner.complete = false →
      inner.flow? = some nested → P nested

/-- A nested flow that the innermost flow has open, and that is not complete, has nothing open. -/
def Pristine (s : Session) : Prop :=
  ∀ id flow child inner nested, s.Nested id s.active.toList → s.flowAt? id = some flow →
    flow.current = some child → s.taskAt? child.task = some inner → inner.complete = false →
      inner.flow? = some nested → nested.current = none

section

variable {s s' : Session} {id : TaskId} {flow flow' : Flow} {child child' : Child}

theorem keeps_of_same (hflow : s.flowAt? id = some flow) (hrunning : s.Running id)
    (hcurrent : flow.current = some child) (hscopes : s'.scopes = s.scopes) :
    Keeps s s' id flow flow child where
  before := hflow
  running := hrunning
  current := hcurrent
  same := .inl rfl
  around := by rw [scopeAt?, hscopes, scopeAt?]
  leaf := by
    intro inner _ _ _
    rw [scopeAt?, hscopes, scopeAt?]

theorem Keeps.pass (hkeeps : Keeps s s' id flow flow' child) : flow'.pass = flow.pass := by
  rcases hkeeps.same with rfl | rfl <;> rfl

theorem Keeps.ambient (hkeeps : Keeps s s' id flow flow' child) (hgrows : Grows s s') :
    s'.ambient id flow' = s.ambient id flow := by
  obtain ⟨task, htask, -⟩ := flowAt?_eq_some_iff.mp hkeeps.before
  have haround := around_congr hkeeps.pass (hgrows.scopeOf htask)
  rw [Session.ambient, Session.ambient, haround, scope_congr hkeeps.around]

/-- A turn of the innermost flow that leaves it with a child open keeps the child or opens it. -/
theorem Turned.keeps_innermost {result : Except Error Turn} {scope : ScopeId}
    (hturned : s.Turned result s') (hrunning : s.Running id) (hhead : s.active.head? = some scope)
    (hbound : (s.scope scope).flow = some id) (hflow' : s'.flowAt? id = some flow')
    (hcurrent' : flow'.current = some child') :
    (∃ flow child, Keeps s s' id flow flow' child) ∨ Opens s s' id ∨
      s'.active = s.active.pop := by
  have hgone : ∀ {r : Session} {flow : Flow} {change : Flow → Flow}, r.flowAt? id = some flow →
      s'.flowAt? id = (r.flowAt? id).map change → (change flow).current = none → False := by
    intro r flow change hflow hmap hnone
    rw [hflow', hflow] at hmap
    cases hmap
    rw [hcurrent'] at hnone
    cases hnone
  have hkeep : s'.scopes = s.scopes → s.flowAt? id = some flow' →
      ∃ flow child, Keeps s s' id flow flow' child :=
    fun hscopes hflow => ⟨flow', child', keeps_of_same hflow hrunning hcurrent' hscopes⟩
  have hwork : ∀ {scope' id' task flow}, s.Working scope' id' task flow →
      s.flowAt? id = some flow ∧ id' = id := by
    intro scope' id' task flow hwork
    obtain ⟨rfl, rfl⟩ := hwork.unique hhead hbound
    exact ⟨hwork.flowAt?, rfl⟩
  cases hturned with
  | idle | stuck | waiting | entered => exact .inl (hkeep rfl hflow')
  | unbound => exact .inr (.inr rfl)
  | left _ _ _ _ _ hleave =>
      unfold leave at hleave
      dsimp only at hleave
      split_ifs at hleave <;> cases hleave <;> exact .inr (.inr rfl)
  | @interrupted _ _ flow child inner hat =>
      obtain ⟨task, hworking⟩ := hat.working
      obtain ⟨hflow, rfl⟩ := hwork hworking
      rw [markInterrupted_eq, flowAt?_modifyFlow_self, hflow] at hflow'
      cases hflow'
      exact .inl ⟨flow, child, hflow, hrunning, hat.current, .inr rfl, rfl, fun _ _ _ _ => rfl⟩
  | @settled _ self _ child _ ran hat _ _ hrun =>
      obtain ⟨task, hworking⟩ := hat.working
      obtain ⟨hflow, rfl⟩ := hwork hworking
      obtain ⟨flow₁, hflow₁, -⟩ := (runChild_grows hrun).flowAt? hflow
      have hmap : (ran.foldChild self child).flowAt? self =
          (ran.flowAt? self).map fun flow => { flow with current := none } := by
        rw [foldChild_eq hflow₁, flowAt?_modifyFlow_self, flowAt?_closeScope, flowAt?_modifyScope]
      exact (hgone hflow₁ hmap rfl).elim
  | dropped hat =>
      obtain ⟨task, hworking⟩ := hat.working
      obtain ⟨hflow, rfl⟩ := hwork hworking
      exact (hgone hflow (flowAt?_modifyFlow_self _ _ _) rfl).elim
  | skipped hat | unopened hat =>
      obtain ⟨task, hworking⟩ := hat.working
      obtain ⟨hflow, rfl⟩ := hwork hworking
      exact (hgone hflow ((flowAt?_passOver s _ _ _).trans (if_pos rfl)) hat.current).elim
  | opened hat hshows hactivity =>
      obtain ⟨task, hworking⟩ := hat.working
      obtain ⟨hflow, rfl⟩ := hwork hworking
      exact .inr (.inl ⟨_, _, _, _, hat, hshows, hactivity, rfl⟩)
  | passOpened hat =>
      obtain ⟨task, hworking⟩ := hat.working
      obtain ⟨hflow, rfl⟩ := hwork hworking
      exact (hgone hflow (flowAt?_modifyFlow_self _ _ _) hat.current).elim
  | passEnded hat =>
      obtain ⟨task, hworking⟩ := hat.working
      obtain ⟨hflow, rfl⟩ := hwork hworking
      exact (hgone hflow (flowAt?_modifyFlow_self _ _ _) hat.current).elim
  | published hat =>
      obtain ⟨task, hworking⟩ := hat.working
      obtain ⟨hflow, rfl⟩ := hwork hworking
      exact (hgone hflow (flowAt?_published s _ _ _)
        ((current_concluded _ _).trans hat.current)).elim
  | unpublished hat =>
      obtain ⟨task, hworking⟩ := hat.working
      obtain ⟨hflow, rfl⟩ := hwork hworking
      exact (hgone hflow (flowAt?_modifyFlow_self _ _ _) hat.current).elim

/-- A flow around another one keeps its child, which is a flow, while nothing below that other
flow changes. -/
theorem SameBelow.keeps {innermost : TaskId} {scopes outer : List ScopeId} {scope : ScopeId}
    (hsame : SameBelow s s' innermost (s.scopeOf innermost)) (hwired : s.Wired)
    (hnested : s.Nested innermost scopes) (hactive : scopes <:+ s.active.toList)
    (hself : s.Nested id (scope :: outer)) (hsuffix : scope :: outer <:+ scopes)
    (hne : id ≠ innermost) (hflow' : s'.flowAt? id = some flow') :
    ∃ child, Keeps s s' id flow' flow' child := by
  rcases hnested.cases_of_suffix hwired hself hsuffix with heq | ⟨task, flow, child, inner, htask,
    hopen, hruns, hcurrent, hinner, hisFlow, hle, hlt⟩
  · exact absurd heq hne
  · have hflow : s.flowAt? id = some flow := flowAt?_eq_some_iff.mpr ⟨task, htask, hruns⟩
    have heq : flow' = flow := by
      have hsameTask := hsame.tasks id hlt
      rw [flowAt?, hsameTask, ← flowAt?, hflow] at hflow'
      exact (Option.some.inj hflow').symm
    subst heq
    have hinside := (hwired.linked hflow).inside hcurrent
    refine ⟨child, hflow, ⟨scope, outer, hsuffix.trans hactive, hself⟩, hcurrent, .inl rfl,
      hsame.scopes _ (by omega), ?_⟩
    intro found hfound _ hleaf
    rw [hinner] at hfound
    cases hfound
    rw [hisFlow] at hleaf
    cases hleaf

/-- What is running after a turn was running before, unless it has just been entered. -/
theorem running_before_turn {result : Except Error Turn} (hturned : s.Turned result s')
    (hsound : s.Sound) (hrunning : s'.Running id) :
    s.Running id ∨ ∃ scope outer flow child inner, s.AtChild scope outer flow child inner ∧
      inner.isFlow = true ∧ inner.complete = false ∧ child.task = id ∧ s'.tasks = s.tasks := by
  have hgrows := hturned.grows
  have hwired' := hturned.wired hsound.wired
  obtain ⟨scope, outer, hsuffix, hnested⟩ := hrunning
  obtain ⟨-, -, hactive | ⟨hactive, -⟩ | ⟨top, owner, flow, child, inner, hat, hisFlow,
    hopen, hactive, htasks⟩⟩ := hturned.cursors
  · rw [hactive] at hsuffix
    exact .inl (running_of_suffix hsound hgrows hwired' hsuffix hnested)
  · rw [hactive, Cursor.toList_pop hsound.active] at hsuffix
    exact .inl (running_of_suffix hsound hgrows hwired'
      (hsuffix.trans (List.tail_suffix _)) hnested)
  · rw [hactive, Cursor.toList_push hsound.active] at hsuffix
    rcases List.suffix_cons_iff.mp hsuffix with heq | hsuffix
    · obtain ⟨hscope, -⟩ := hat.places hsound.wired
      have hbound := hsound.wired.flow_scope hat.inner hisFlow
      rw [hscope, ← (List.cons.inj heq).1] at hbound
      have hself := hgrows.scope_flow hbound
      rw [hnested.flow_scope hwired'] at hself
      exact .inr ⟨top, owner, flow, child, inner, hat, hisFlow, hopen,
        (Option.some.inj hself).symm, htasks⟩
    · exact .inl (running_of_suffix hsound hgrows hwired' hsuffix hnested)

/-- A turn that leaves a running flow with a child open keeps the child or opens it. -/
theorem keeps_turn {result : Except Error Turn} (hturn : s.turn = (result, s'))
    (hsound : s.Sound) (hpristine : s.Pristine) (hrunning : s'.Running id)
    (hflow' : s'.flowAt? id = some flow') (hcurrent' : flow'.current = some child') :
    (∃ flow child, Keeps s s' id flow flow' child) ∨ Opens s s' id := by
  have hturned := turned hturn
  have hwired := hsound.wired
  rcases running_before_turn hturned hsound hrunning with hbefore | ⟨top, owner, flow, child, inner,
    hat, hisFlow, hopen, rfl, htasks⟩
  · cases hhead : s.active.head? with
    | none =>
        rw [Cursor.head?_eq hsound.active, List.head?_eq_none_iff] at hhead
        exact absurd hhead hbefore.nonempty
    | some scope =>
        obtain ⟨innermost, outer, hlist, hnested, hbound⟩ := hsound.head hhead
        have hscope := hwired.scopeOf_eq hbound
        by_cases hself : id = innermost
        · subst hself
          rcases hturned.keeps_innermost hbefore hhead hbound hflow' hcurrent' with
            hkeeps | hopens | hactive
          · exact .inl hkeeps
          · exact .inr hopens
          · -- A flow that was left is not running any more: the scopes that stay are older.
            obtain ⟨scope', outer', hsuffix, hnested'⟩ := hrunning
            have hwired' := hturned.wired hwired
            rw [hactive, Cursor.toList_pop hsound.active, hlist] at hsuffix
            have hsame : scope' = scope := by
              obtain ⟨task, htask, -⟩ := hnested.isFlow hwired
              rw [← hnested'.scopeOf_eq hwired', hturned.grows.scopeOf htask, hscope]
            have hlt := hnested.lt hwired scope' (hsuffix.mem List.mem_cons_self)
            rw [hscope, hsame] at hlt
            exact absurd hlt (Nat.lt_irrefl _)
        · have hsame := hturned.sameBelow hwired hhead hbound
          rw [← hscope] at hsame
          obtain ⟨scope', outer', hsuffix, hnested'⟩ := hbefore
          rw [hlist] at hsuffix
          obtain ⟨child, hkeeps⟩ := hsame.keeps hwired hnested (hlist ▸ List.suffix_rfl) hnested'
            hsuffix hself hflow'
          exact .inl ⟨flow', child, hkeeps⟩
  · -- A flow that has just been entered has nothing open yet.
    obtain ⟨task, hwork⟩ := hat.working
    obtain ⟨outer, hlist, hnested⟩ := hwork.nested hsound
    rw [← hlist] at hnested
    rw [flowAt?, taskAt?, htasks, ← taskAt?, hat.inner] at hflow'
    have hnone := hpristine owner flow child inner flow' hnested hwork.flowAt? hat.current hat.inner
      hopen hflow'
    rw [hnone] at hcurrent'
    cases hcurrent'

/-- The scope in which a flow opens its tasks belongs to no task of another sort. -/
theorem Wired.around_ne (hwired : s.Wired) {other : TaskId} {task : Task}
    (hflow : s.flowAt? id = some flow) (htask : s.taskAt? other = some task)
    (hisFlow : task.isFlow = false) : s.around id flow ≠ task.scope := by
  intro heq
  obtain ⟨parent, hbinding⟩ := hwired.bound htask
  rw [hisFlow, ← heq, around_eq] at hbinding
  cases hpass : flow.pass with
  | some pass =>
      have hfree := ((hwired.linked hflow).pass hpass).1
      rw [hpass, Option.getD_some, hfree] at hbinding
      cases hbinding
  | none =>
      obtain ⟨self, hself, hruns⟩ := flowAt?_eq_some_iff.mp hflow
      obtain ⟨parent', hbound⟩ := hwired.bound hself
      have hself' : self.isFlow = true := by rw [Task.isFlow, hruns]; rfl
      rw [hpass, Option.getD_none, scopeOf_eq_of_taskAt? hself, hbound, hself'] at hbinding
      cases hbinding

/-- A task is known by its scope. -/
theorem Wired.eq_of_scope_eq (hwired : s.Wired) {first second : TaskId} {task other : Task}
    (htask : s.taskAt? first = some task) (hother : s.taskAt? second = some other)
    (hscope : task.scope = other.scope) : first = second := by
  obtain ⟨parent, hbinding⟩ := hwired.bound htask
  obtain ⟨parent', hbinding'⟩ := hwired.bound hother
  rw [hscope, hbinding'] at hbinding
  exact (Option.some.inj (congrArg Scope.Binding.task (Option.some.inj hbinding))).symm

/-- An act that leaves a running flow with a child open keeps the child. -/
theorem keeps_act {task : TaskId} (hact : Act task s s') (hsound : s.Sound)
    (hrunning : s'.Running id) (hflow' : s'.flowAt? id = some flow')
    (hcurrent' : flow'.current = some child') : ∃ child, Keeps s s' id flow' flow' child := by
  have hgrows := hact.grows
  have hwired := hsound.wired
  have hwired' := hact.wired hsound
  obtain ⟨scope, outer, hsuffix, hnested⟩ := hrunning
  rcases hact.quiet_or_returned with hquiet | ⟨found, entry, target, -, -, htarget, rfl⟩
  · rw [hquiet.active] at hsuffix
    have hbefore := running_of_suffix hsound hgrows hwired' hsuffix hnested
    have hflow : s.flowAt? id = some flow' := by
      obtain ⟨scope₀, outer₀, -, hnested₀⟩ := hbefore
      obtain ⟨running, hself, hisFlow⟩ := hnested₀.isFlow hwired
      rw [flowAt?, hquiet.flows hself hisFlow] at hflow'
      rw [flowAt?, hself]
      exact hflow'
    refine ⟨child', hflow, hbefore, hcurrent', .inl rfl, ?_, ?_⟩
    · rcases hquiet.scopes (s.around id flow') with hsame | ⟨other, hother, hinput, hscope⟩
      · exact hsame
      · exact absurd hscope.symm
          (hwired.around_ne hflow hother (Task.isFlow_of_takesInput hinput))
    · intro inner hinner hleaf _
      rcases hquiet.scopes child'.scope with hsame | ⟨other, hother, hinput, hscope⟩
      · exact hsame
      · have hplaces := hwired.child_places hflow hcurrent' hinner
        cases hwired.eq_of_scope_eq hinner hother (hplaces.1.trans hscope.symm)
        rw [hinner] at hother
        cases hother
        rw [hinput] at hleaf
        cases hleaf
  · rcases hsound.nested with hempty | ⟨innermost, hchain⟩
    · rw [hempty] at htarget
      cases htarget
    · obtain ⟨-, rest, hsuffix', hentry⟩ := hchain.of_returnTarget? hwired htarget
      have hrestored := restored hwired hsound.active hchain hsuffix' hentry
      have hsame : SameBelow s (s.restore target entry) entry.flow (s.scopeOf entry.flow) := by
        rw [hentry.scopeOf_eq hwired]
        exact hrestored.same
      have hlist : ((s.restore target entry).emit (.backAsked found.name true)).active.toList =
          target :: rest := hrestored.active
      rw [hlist] at hsuffix
      obtain ⟨other, hother⟩ := hentry.of_suffix hsuffix
      have hid := hgrows.scope_flow (hother.flow_scope hwired)
      rw [hnested.flow_scope hwired'] at hid
      cases hid
      have hne : id ≠ entry.flow := by
        rintro rfl
        have hnone := hrestored.current hflow'
        rw [hcurrent'] at hnone
        cases hnone
      obtain ⟨child, hkeeps⟩ := hsame.keeps hwired hentry hsuffix' hother hsuffix hne hflow'
      exact ⟨child, hkeeps.before, hkeeps.running, hkeeps.current, hkeeps.same, hkeeps.around,
        hkeeps.leaf⟩

/-- The same scopes have the same innermost flow. -/
theorem Nested.innermost_eq {innermost : TaskId} {scopes : List ScopeId}
    (hnested : s.Nested innermost scopes) (hnested' : s'.Nested id scopes) (hwired : s.Wired)
    (hwired' : s'.Wired) (hgrows : Grows s s') : innermost = id := by
  obtain ⟨outer, rfl⟩ := hnested.eq_cons hwired
  have hbound := hgrows.scope_flow (hnested.flow_scope hwired)
  rw [hnested'.flow_scope hwired'] at hbound
  exact (Option.some.inj hbound).symm

theorem Keeps.child_eq (hkeeps : Keeps s s' id flow flow' child)
    (hcurrent' : flow'.current = some child') :
    child' = child ∨ child' = { child with interrupted := true } := by
  rcases hkeeps.same with rfl | rfl
  · rw [hkeeps.current] at hcurrent'
    exact .inl (Option.some.inj hcurrent').symm
  · rw [Flow.interrupted, hkeeps.current] at hcurrent'
    exact .inr (Option.some.inj hcurrent').symm

/-- The flow that has just opened its next task. -/
theorem flowAt?_openChild {scope : ScopeId} {decl : TaskDecl} {activity : Activity}
    (hat : s.AtStep scope id flow (.openTask decl)) :
    (s.openChild id flow decl activity).flowAt? id =
      some { flow with cursor := flow.cursor + 1, current := some (s.nextChild flow) } := by
  obtain ⟨task, hwork⟩ := hat.working
  have hid := taskAt?_lt hwork.here
  have hne : id ≠ s.nextTask := TaskId.ne_of_lt hid
  rw [flowAt?, taskAt?_openChild s hid, if_neg hne, if_pos rfl, hwork.here, Option.map_some,
    Option.bind_some, Task.flow?_mapFlow, hwork.runs]
  rfl

/-- A flow that has just opened a task is at it. -/
theorem AtStep.atChild_openChild {scope : ScopeId} {decl : TaskDecl} {activity : Activity}
    (hat : s.AtStep scope id flow (.openTask decl))
    (hgrows : Grows s (s.openChild id flow decl activity)) :
    (s.openChild id flow decl activity).AtChild scope id
      { flow with cursor := flow.cursor + 1, current := some (s.nextChild flow) }
      (s.nextChild flow) (s.declaredTask id decl activity) := by
  obtain ⟨task, hwork⟩ := hat.working
  have hid := taskAt?_lt hwork.here
  have hold : id ≠ s.nextTask := TaskId.ne_of_lt hid
  obtain ⟨-, -, -, hactive, -, hredirected, -⟩ := openChild_others s id flow decl activity
  refine ⟨⟨_, hwork.changed hgrows hredirected hactive (fun current =>
    { current with cursor := current.cursor + 1, current := some (s.nextChild flow) }) ?_⟩, rfl, ?_⟩
  · rw [taskAt?_openChild s hid, if_neg hold, if_pos rfl]
  · rw [taskAt?_openChild s hid]
    exact if_pos rfl

/-- A task that has just been opened has the state in which its flow opens its tasks. -/
theorem stateOf_openChild (s : Session) (id : TaskId) (flow : Flow) (decl : TaskDecl)
    (activity : Activity) :
    (s.openChild id flow decl activity).stateOf (s.declaredTask id decl activity) =
      s.ambient id flow := by
  have hscope : (s.declaredTask id decl activity).scope = s.nextScope := rfl
  rw [stateOf, hscope, scope_eq, scopeAt?_openChild, if_pos rfl]
  rfl

/-- Opening a task does not change the state in which its flow opens its tasks. -/
theorem AtStep.ambient_openChild {scope : ScopeId} {decl : TaskDecl} {activity : Activity}
    (hat : s.AtStep scope id flow (.openTask decl)) (hwired : s.Wired)
    (hgrows : Grows s (s.openChild id flow decl activity)) :
    (s.openChild id flow decl activity).ambient id
      { flow with cursor := flow.cursor + 1, current := some (s.nextChild flow) } =
        s.ambient id flow := by
  obtain ⟨task, hwork⟩ := hat.working
  obtain ⟨-, -, -, -, -, haround⟩ := hat.places hwired
  have hold : s.around id flow ≠ s.nextScope := ScopeId.ne_of_lt haround
  have hsame : (s.openChild id flow decl activity).around id
      { flow with cursor := flow.cursor + 1, current := some (s.nextChild flow) } =
        s.around id flow := around_congr rfl (hgrows.scopeOf hwork.here)
  rw [Session.ambient, hsame, scope_eq, scopeAt?_openChild, if_neg hold]
  rfl

/-- A turn leaves a nested flow untouched until it is entered, and opens one as it is built. -/
theorem Untouched.turn {P : Flow → Prop} {result : Except Error Turn} (huntouched : s.Untouched P)
    (hpristine : s.Pristine) (hbuilt : ∀ flow : Flow, flow = flow.skeleton → P flow)
    (hsound : s.Sound) (hturn : s.turn = (result, s')) : s'.Untouched P := by
  intro id flow' child' inner' nested hnested hflow' hcurrent' hinner' hopen hruns
  have hturned := turned hturn
  have hgrows := hturned.grows
  have hwired := hsound.wired
  have hwired' := hturned.wired hwired
  have hrunning := hnested.running hwired' List.suffix_rfl
  rcases keeps_turn hturn hsound hpristine hrunning hflow' hcurrent' with
    ⟨flow, child, hkeeps⟩ | ⟨scope, flow, decl, activity, hat, -, hactivity, rfl⟩
  · have hchild : child'.task = child.task := by
      rcases hkeeps.child_eq hcurrent' with rfl | rfl <;> rfl
    obtain ⟨inner, hinner, -⟩ := (hwired.linked hkeeps.before).child hkeeps.current
    have hplaces := hwired.child_places hkeeps.before hkeeps.current hinner
    obtain ⟨found, hfound, -, hcomplete⟩ := hgrows.tasks hinner
    rw [hchild, hfound] at hinner'
    cases hinner'
    have hincomplete : inner.complete = false := by
      cases hbefore : inner.complete with
      | false => rfl
      | true =>
          rw [hcomplete hbefore] at hopen
          cases hopen
    obtain ⟨innermost, hchain⟩ := hsound.nested.resolve_left hkeeps.running.nonempty
    obtain ⟨outer, hlist⟩ := hchain.eq_cons hwired
    have hhead : s.active.head? = some (s.scopeOf innermost) := by
      rw [Cursor.head?_eq hsound.active, hlist]
      rfl
    rw [hlist] at hchain
    have hbound := hchain.flow_scope hwired
    obtain ⟨-, -, hactive | ⟨hactive, htasks, hdone⟩ | ⟨top, owner, around, entered, task, hat,
      hisFlow, hincomplete', hactive, htasks⟩⟩ := hturned.cursors
    · -- The innermost flow is the same, and it does not change the flow it has open.
      rw [hactive, hlist] at hnested
      cases hchain.innermost_eq hnested hwired hwired' hgrows
      have hne : id ≠ child.task := TaskId.ne_of_lt hplaces.2.2.1
      have hnew : child.task ≠ s.nextTask := TaskId.ne_of_lt (taskAt?_lt hinner)
      have hsame := hturned.flowAt?_of_ne hwired hhead hbound hne hnew
      have hnestedFlow : s.flowAt? child.task = some nested :=
        hsame.symm.trans (flowAt?_eq_some_iff.mpr ⟨_, hfound, hruns⟩)
      obtain ⟨inner', hinner', hruns'⟩ := flowAt?_eq_some_iff.mp hnestedFlow
      rw [hinner] at hinner'
      cases hinner'
      rw [← hlist] at hchain
      exact huntouched _ flow child inner nested hchain hkeeps.before hkeeps.current hinner
        hincomplete hruns'
    · -- The flow that is innermost now has the flow open that was left, which is complete.
      rw [hactive, Cursor.toList_pop hsound.active, hlist, List.tail_cons] at hnested
      generalize hscopes : s.scopeOf innermost :: outer = scopes at hchain
      cases hchain with
      | root =>
          obtain ⟨rest, hempty⟩ := hnested.eq_cons hwired'
          rw [(List.cons.inj hscopes).2] at hempty
          cases hempty
      | child houter htask _ hflow hcurrent hleft =>
          rw [(List.cons.inj hscopes).2] at hnested
          cases houter.innermost_eq hnested hwired hwired' hgrows
          have hsame := flowAt?_eq_some_iff.mpr ⟨_, htask, hflow⟩
          rw [hkeeps.before] at hsame
          cases hsame
          rw [hkeeps.current] at hcurrent
          cases hcurrent
          have hdone' := hdone _ _ _ hhead hbound hinner
          rw [hincomplete] at hdone'
          cases hdone'
    · -- The flow that was entered had nothing open.
      obtain ⟨working, hwork⟩ := hat.working
      rw [hwork.head] at hhead
      cases hhead
      rw [hwork.bound] at hbound
      cases hbound
      have hscope := (hat.places hwired).1
      have hself := hgrows.scope_flow (hwired.flow_scope hat.inner hisFlow)
      rw [hactive, Cursor.toList_push hsound.active] at hnested
      rw [hscope, hnested.flow_scope hwired'] at hself
      cases hself
      obtain ⟨inner', hinner', hruns'⟩ := flowAt?_eq_some_iff.mp hkeeps.before
      rw [hat.inner] at hinner'
      cases hinner'
      rw [← hlist] at hchain
      have hnone := hpristine _ around entered task flow hchain hwork.flowAt? hat.current hat.inner
        hincomplete' hruns'
      rw [hkeeps.current] at hnone
      cases hnone
  · -- A flow that has just been opened is as it was built.
    rw [flowAt?_openChild hat] at hflow'
    cases hflow'
    cases hcurrent'
    obtain ⟨task, hwork⟩ := hat.working
    have hnew : (s.nextChild flow).task = s.nextTask := rfl
    rw [hnew, taskAt?_openChild s (taskAt?_lt hwork.here), if_pos rfl] at hinner'
    cases hinner'
    have hsort : activity = .flow nested := Task.flow?_eq_some_iff.mp hruns
    rw [hsort] at hactivity
    obtain ⟨repetition, settings, hstart⟩ := start_of_activity hactivity
    apply hbuilt
    rw [Flow.start_eq hstart]
    rfl

/-- An act leaves nested flows untouched. -/
theorem Untouched.act {P : Flow → Prop} {task : TaskId} (huntouched : s.Untouched P)
    (hsound : s.Sound) (hact : Act task s s') : s'.Untouched P := by
  intro id flow' child' inner' nested hnested hflow' hcurrent' hinner' hopen hruns
  have hgrows := hact.grows
  have hwired := hsound.wired
  have hwired' := hact.wired hsound
  have hrunning := hnested.running hwired' List.suffix_rfl
  obtain ⟨child, hkeeps⟩ := keeps_act hact hsound hrunning hflow' hcurrent'
  obtain ⟨innermost, hchain⟩ := hsound.nested.resolve_left hkeeps.running.nonempty
  rcases hact.quiet_or_returned with hquiet | ⟨found, entry, target, -, -, htarget, rfl⟩
  · rw [hquiet.active] at hnested
    cases hchain.innermost_eq hnested hwired hwired' hgrows
    obtain ⟨inner, hinner, -⟩ := (hwired.linked hkeeps.before).child hcurrent'
    obtain ⟨found, hfound, hskeleton, -⟩ := hgrows.tasks hinner
    rw [hinner'] at hfound
    cases hfound
    have hisFlow : inner.isFlow = true := by
      rw [← Task.isFlow_of_skeleton hskeleton, Task.isFlow, hruns]
      rfl
    have hsame := hquiet.flows hinner hisFlow
    rw [hinner'] at hsame
    cases hsame
    exact huntouched id flow' child' _ nested hchain hkeeps.before hcurrent' hinner hopen hruns
  · obtain ⟨-, rest, hsuffix, hentry⟩ := hchain.of_returnTarget? hwired htarget
    have hrestored := restored hwired hsound.active hchain hsuffix hentry
    have hlist : ((s.restore target entry).emit (.backAsked found.name true)).active.toList =
        target :: rest := hrestored.active
    rw [hlist] at hnested
    cases hentry.innermost_eq hnested hwired hwired' hgrows
    have hnone := hrestored.current hflow'
    rw [hcurrent'] at hnone
    cases hnone

theorem Alike.untouched {P : Flow → Prop} (halike : Alike s s') (hsound : s.Sound)
    (huntouched : s.Untouched P) : s'.Untouched P := by
  intro id flow child inner nested hnested hflow hcurrent hinner
  have hwired' := halike.wired hsound.wired
  have hrunning := hnested.running hwired' List.suffix_rfl
  obtain ⟨innermost, hchain⟩ := hsound.nested.resolve_left (halike.active ▸ hrunning.nonempty)
  rw [halike.active] at hnested
  cases hchain.innermost_eq hnested hsound.wired hwired' halike.grows
  rw [flowAt?, taskAt?, halike.tasks] at hflow
  rw [taskAt?, halike.tasks] at hinner
  exact huntouched id flow child inner nested hchain hflow hcurrent hinner

/-- A turn keeps a nested flow pristine until it is entered. -/
theorem Pristine.turn {result : Except Error Turn} (hpristine : s.Pristine) (hsound : s.Sound)
    (hturn : s.turn = (result, s')) : s'.Pristine := by
  have hbuilt : ∀ flow : Flow, flow = flow.skeleton → flow.current = none :=
    fun _ hflow => congrArg Flow.current hflow
  exact Untouched.turn hpristine hpristine hbuilt hsound hturn

/-- An act keeps nested flows pristine. -/
theorem Pristine.act {task : TaskId} (hpristine : s.Pristine) (hsound : s.Sound)
    (hact : Act task s s') : s'.Pristine :=
  Untouched.act hpristine hsound hact

end

/-! ## Undisturbed children -/

/-- The declaration at the place of the child would open the same child again: its preconditions
pass, and it is built into a task of the same sort.  A child that waits for nothing still has the
state that it was opened with. -/
structure Undisturbed (s : Session) (id : TaskId) (flow : Flow) (child : Child) (decl : TaskDecl)
    (inner : Task) (activity : Activity) : Prop where
  calm : flow.broke = false
  within : flow.isLoop = true → flow.pass.isSome = true
  declared : ∃ declared, Keyed.get? flow.definition s.repository.flows = some declared ∧
    declared.tasks[child.place]? = some decl
  here : s.taskAt? child.task = some inner
  name : inner.name = decl.name
  shows : s.shows id flow decl = .ok true
  built : s.repository.activity decl (s.ambient id flow) = .ok activity
  sort : activity.skeleton = inner.activity.skeleton
  leaf : inner.takesInput = false → inner.isFlow = false →
    (s.scope child.scope).state = s.ambient id flow

section

variable {s s' : Session} {id : TaskId} {flow flow' : Flow} {child child' : Child}
  {decl : TaskDecl} {inner : Task} {activity : Activity}

theorem Task.takesInput_of_skeleton {task other : Task} (h : task.skeleton = other.skeleton) :
    task.takesInput = other.takesInput := by
  have hactivity := Task.activity_of_skeleton h
  unfold Task.takesInput
  cases htask : task.activity <;> cases hother : other.activity <;>
    simp [htask, hother, Activity.skeleton] at hactivity ⊢

/-- A child that is kept stays undisturbed. -/
theorem Undisturbed.keeps (hundisturbed : s.Undisturbed id flow child decl inner activity)
    (hkeeps : Keeps s s' id flow flow' child) (hgrows : Grows s s')
    (hcurrent' : flow'.current = some child') :
    ∃ inner', s'.Undisturbed id flow' child' decl inner' activity := by
  obtain ⟨inner', hinner', hskeleton, -⟩ := hgrows.tasks hundisturbed.here
  have hambient := hkeeps.ambient hgrows
  have hflow : flow'.broke = flow.broke ∧ flow'.isLoop = flow.isLoop ∧
      flow'.definition = flow.definition := by
    rcases hkeeps.same with rfl | rfl <;> exact ⟨rfl, rfl, rfl⟩
  have hchild : child'.place = child.place ∧ child'.task = child.task ∧
      child'.scope = child.scope := by
    rcases hkeeps.child_eq hcurrent' with rfl | rfl <;> exact ⟨rfl, rfl, rfl⟩
  obtain ⟨declared, hdeclared, hdecl⟩ := hundisturbed.declared
  refine ⟨inner', ?_, ?_, ?_, ?_, ?_, ?_, ?_, ?_, ?_⟩
  · rw [hflow.1]
    exact hundisturbed.calm
  · rw [hflow.2.1, hkeeps.pass]
    exact hundisturbed.within
  · refine ⟨declared, ?_, ?_⟩
    · rw [hflow.2.2, hgrows.repository]
      exact hdeclared
    · rw [hchild.1]
      exact hdecl
  · rw [hchild.2.1]
    exact hinner'
  · exact (Task.name_of_skeleton hskeleton).trans hundisturbed.name
  · have hshows := hundisturbed.shows
    rw [Session.shows] at hshows ⊢
    rw [hambient, hgrows.judge]
    exact hshows
  · rw [hambient, hgrows.repository]
    exact hundisturbed.built
  · exact hundisturbed.sort.trans (Task.activity_of_skeleton hskeleton).symm
  · intro hinput hisFlow
    rw [Task.takesInput_of_skeleton hskeleton] at hinput
    rw [Task.isFlow_of_skeleton hskeleton] at hisFlow
    have hsame := hkeeps.leaf inner hundisturbed.here hinput hisFlow
    rw [hchild.2.2, hambient, scope_eq, hsame]
    exact hundisturbed.leaf hinput hisFlow

/-- A child that has just been opened is undisturbed. -/
theorem Opens.undisturbed (hopens : Opens s s' id) (hsound : s.Sound)
    (hflow' : s'.flowAt? id = some flow') (hcurrent' : flow'.current = some child') :
    ∃ decl inner activity, s'.Undisturbed id flow' child' decl inner activity := by
  obtain ⟨scope, flow, decl, activity, hat, hshows, hactivity, rfl⟩ := hopens
  rw [flowAt?_openChild hat] at hflow'
  cases hflow'
  cases hcurrent'
  obtain ⟨task, hwork⟩ := hat.working
  obtain ⟨declared, hdeclared, hnext⟩ := hat.next
  obtain ⟨hcalm, hwithin, hdecl⟩ := Flow.nextStep_eq_openTask_iff.mp hnext
  have hgrows : Grows s (s.openChild id flow decl activity) :=
    (Turned.opened hat hshows hactivity).grows
  have hambient := hat.ambient_openChild hsound.wired hgrows
  have hrepository : (s.openChild id flow decl activity).repository = s.repository :=
    hgrows.repository
  have hnew : (s.nextChild flow).task = s.nextTask := rfl
  have hscope : (s.nextChild flow).scope = s.nextScope := rfl
  refine ⟨decl, s.declaredTask id decl activity, activity, hcalm, hwithin,
    ⟨declared, ?_, hdecl⟩, ?_, rfl, ?_, ?_, rfl, fun _ _ => ?_⟩
  · rw [hrepository]
    exact hdeclared
  · rw [hnew, taskAt?_openChild s (taskAt?_lt hwork.here), if_pos rfl]
  · rw [Session.shows] at hshows ⊢
    rw [hambient, hgrows.judge]
    exact hshows
  · rw [hambient, hrepository]
    exact hactivity
  · rw [hambient, hscope]
    exact stateOf_openChild s id flow decl activity

end

/-- A nested flow that was not entered is pristine, and what running flows have open is
undisturbed. -/
structure Steady (s : Session) : Prop where
  pristine : s.Pristine
  undisturbed : ∀ id flow child, s.Running id → s.flowAt? id = some flow →
    flow.current = some child → ∃ decl inner activity,
      s.Undisturbed id flow child decl inner activity

theorem Steady.of_keeps {s s' : Session} (hsteady : s.Steady) (hgrows : Grows s s')
    {id : TaskId} {flow flow' : Flow} {child child' : Child}
    (hkeeps : Keeps s s' id flow flow' child) (hcurrent' : flow'.current = some child') :
    ∃ decl inner activity, s'.Undisturbed id flow' child' decl inner activity := by
  obtain ⟨decl, inner, activity, hundisturbed⟩ :=
    hsteady.undisturbed id flow child hkeeps.running hkeeps.before hkeeps.current
  obtain ⟨inner', hundisturbed'⟩ := hundisturbed.keeps hkeeps hgrows hcurrent'
  exact ⟨decl, inner', activity, hundisturbed'⟩

theorem Alike.steady {s s' : Session} (halike : Alike s s') (hsound : s.Sound)
    (hsteady : s.Steady) : s'.Steady where
  pristine := halike.untouched hsound hsteady.pristine
  undisturbed := by
    intro id flow child hrunning hflow hcurrent
    obtain ⟨scope, outer, hsuffix, hnested⟩ := hrunning
    rw [halike.active] at hsuffix
    rw [flowAt?, taskAt?, halike.tasks] at hflow
    have hbefore := running_of_suffix hsound halike.grows (halike.wired hsound.wired) hsuffix
      hnested
    exact hsteady.of_keeps halike.grows (keeps_of_same hflow hbefore hcurrent halike.scopes)
      hcurrent

/-- A move keeps a session steady. -/
theorem Move.steady {s s' : Session} (hmove : Move s s') (hsound : s.Sound)
    (hsteady : s.Steady) : s'.Steady := by
  have hgrows := hmove.grows
  cases hmove with
  | turn hturn =>
      refine ⟨hsteady.pristine.turn hsound hturn, ?_⟩
      intro id flow' child' hrunning hflow' hcurrent'
      rcases keeps_turn hturn hsound hsteady.pristine hrunning hflow' hcurrent' with
        ⟨flow, child, hkeeps⟩ | hopens
      · exact hsteady.of_keeps hgrows hkeeps hcurrent'
      · exact hopens.undisturbed hsound hflow' hcurrent'
  | act hact =>
      refine ⟨hsteady.pristine.act hsound hact, ?_⟩
      intro id flow' child' hrunning hflow' hcurrent'
      obtain ⟨child, hkeeps⟩ := keeps_act hact hsound hrunning hflow' hcurrent'
      exact hsteady.of_keeps hgrows hkeeps hcurrent'
  | breakpoint name => exact (alike_setBreakpoint s name).steady hsound hsteady

theorem Moves.steady {s s' : Session} (hmoves : Relation.ReflTransGen Move s s')
    (hsound : s.Sound) (hsteady : s.Steady) : s'.Steady := by
  induction hmoves with
  | refl => exact hsteady
  | tail hbefore hmove ih => exact hmove.steady (Moves.sound hbefore hsound) ih

/-- A session starts with nothing open. -/
theorem current_initial {document : Document} {settings : SessionSettings} {ownsEvents : Bool}
    {flowSettings : FlowSettings} {id : TaskId} {flow : Flow}
    (hflow : (initial document settings ownsEvents flowSettings).flowAt? id = some flow) :
    flow.current = none := by
  obtain ⟨index⟩ := id
  cases index with
  | zero =>
      cases hflow
      rfl
  | succ index => cases hflow

theorem initial_untouched (P : Flow → Prop) (document : Document) (settings : SessionSettings)
    (ownsEvents : Bool) (flowSettings : FlowSettings) :
    (initial document settings ownsEvents flowSettings).Untouched P := by
  intro id flow child inner nested _ hflow hcurrent
  rw [current_initial hflow] at hcurrent
  cases hcurrent

theorem initial_steady (document : Document) (settings : SessionSettings) (ownsEvents : Bool)
    (flowSettings : FlowSettings) :
    (initial document settings ownsEvents flowSettings).Steady where
  pristine := initial_untouched _ document settings ownsEvents flowSettings
  undisturbed := by
    intro id flow child _ hflow hcurrent
    rw [current_initial hflow] at hcurrent
    cases hcurrent

theorem Reachable.steady {s : Session} (hreach : s.Reachable) : s.Steady := by
  obtain ⟨document, settings, ownsEvents, start, hstart, hrun⟩ := hreach
  obtain ⟨declared, -, rfl⟩ := start_eq hstart
  exact Moves.steady hrun.moves
    (initial_sound document settings ownsEvents declared.settings)
    (initial_steady document settings ownsEvents declared.settings)

end Session

end Workflow
