import Mathlib.Data.List.Chain
import Workflow.Proofs.Session.Rest

/-!
# Depth first

The flows being run form a call stack: from the root outwards in, each one is the current child of
the one around it, and none of them is complete, `Session.DepthFirst`.  What a pull hands out is the
current child of the innermost flow.  So nothing of an outer flow is opened or handed out while the
nested flow it has open is not complete.
-/

namespace Workflow

namespace Session

/-- The scope belongs to a flow task that is not complete. -/
def Runs (s : Session) (scope : ScopeId) (id : TaskId) (task : Task) (flow : Flow) : Prop :=
  (s.scope scope).flow = some id ∧ s.task id = .ok task ∧ task.scope = scope ∧
    task.flow? = some flow ∧ task.complete = false

/-- The task is the current child of a flow, which owns it, and it has the given scope. -/
def ChildOf (s : Session) (owner : TaskId) (flow : Flow) (child : TaskId) (scope : ScopeId) :
    Prop :=
  (∃ current, flow.current = some current ∧ current.task = child ∧ current.scope = scope) ∧
    ∃ task, s.task child = .ok task ∧ task.scope = scope ∧ task.owner = some owner

/-- The call stack of a session runs depth first. The stack is listed from its head. -/
structure DepthFirst (s : Session) : Prop where
  outermost : s.active.toList ≠ [] → s.active.toList.getLast? = some s.rootScope
  running : ∀ scope ∈ s.active.toList, ∃ id task flow, s.Runs scope id task flow
  chained : s.active.toList.IsChain fun inner outer => ∃ id task flow child,
    s.Runs outer id task flow ∧ (s.scope inner).flow = some child ∧ s.ChildOf id flow child inner

/-- The task is open: there is such a task, and it is not complete. -/
def IsOpen (s : Session) (id : TaskId) : Prop :=
  ∃ task, s.task id = .ok task ∧ task.complete = false

/-- The task is a nested flow that its flow `outer` has open. -/
def HasOpen (s : Session) (outer inner : TaskId) : Prop :=
  ∃ flow child task, s.flow outer = .ok flow ∧ flow.current = some child ∧ child.task = inner ∧
    s.task inner = .ok task ∧ task.isFlow = true

/-! ## The call stack -/

section

variable {s : Session} {id : TaskId} {scopes : List ScopeId}

theorem Nested.getLast? (hnested : s.Nested id scopes) : scopes.getLast? = some s.rootScope := by
  induction hnested with
  | root => rfl
  | @child id scopes _ _ _ _ houter _ _ _ _ _ _ ih =>
      cases scopes with
      | nil => cases ih
      | cons scope outer => simpa using ih

/-- A flow on the chain runs in its scope. -/
theorem Nested.runs {scope : ScopeId} {outer : List ScopeId} (hnested : s.Nested id scopes)
    (hwired : s.Wired) (hopen : ∃ task, s.taskAt? id = some task ∧ task.complete = false)
    (hsuffix : scope :: outer <:+ scopes) : ∃ id task flow, s.Runs scope id task flow := by
  obtain ⟨other, hother⟩ := hnested.of_suffix hsuffix
  have hbound := hother.flow_scope hwired
  obtain ⟨task, htask, hincomplete⟩ := hnested.incomplete hwired hopen hsuffix hbound
  obtain ⟨found, hfound, hisFlow⟩ := hother.isFlow hwired
  rw [htask] at hfound
  cases hfound
  obtain ⟨flow, hflow⟩ := Option.isSome_iff_exists.mp hisFlow
  have hscope := hother.scopeOf_eq hwired
  rw [scopeOf_eq_of_taskAt? htask] at hscope
  exact ⟨other, task, flow, hbound, task_eq_ok_iff.mpr htask, hscope, hflow, hincomplete⟩

theorem Nested.isChain (hnested : s.Nested id scopes) (hwired : s.Wired) :
    scopes.IsChain fun inner outer => ∃ id task flow child,
      s.Runs outer id task flow ∧ (s.scope inner).flow = some child ∧
        s.ChildOf id flow child inner := by
  induction hnested with
  | root => exact List.isChain_singleton _
  | @child id scopes task flow child inner houter htask hopen hflow hcurrent hinner hisFlow ih =>
      obtain ⟨scope, rest, rfl⟩ : ∃ scope rest, scopes = scope :: rest := by
        obtain ⟨rest, hlist⟩ := houter.eq_cons hwired
        exact ⟨_, rest, hlist⟩
      obtain ⟨hscope, howner, -, -⟩ := hwired.child_places
        (flowAt?_eq_some_iff.mpr ⟨task, htask, hflow⟩) hcurrent hinner
      have houterScope := houter.scopeOf_eq hwired
      rw [scopeOf_eq_of_taskAt? htask] at houterScope
      have hbound := hwired.flow_scope hinner hisFlow
      rw [hscope] at hbound
      refine List.isChain_cons_cons.mpr ⟨⟨id, task, flow, child.task, ?_, hbound, ?_⟩, ih⟩
      · exact ⟨houter.flow_scope hwired, task_eq_ok_iff.mpr htask, houterScope, hflow, hopen⟩
      · exact ⟨⟨child, hcurrent, rfl, rfl⟩, inner, task_eq_ok_iff.mpr hinner, hscope, howner⟩

end

/-- A sound session at rest runs depth first. -/
theorem depthFirst_of_resting {s : Session} (hsound : s.Sound) (hrest : s.Resting) :
    s.DepthFirst := by
  rcases hsound.nested with hempty | ⟨id, hnested⟩
  · refine ⟨fun h => absurd hempty h, ?_, ?_⟩
    · rw [hempty]
      simp
    · rw [hempty]
      exact List.isChain_nil
  · obtain ⟨outer, hlist⟩ := hnested.eq_cons hsound.wired
    have hopen : ∃ task, s.taskAt? id = some task ∧ task.complete = false := by
      rw [hlist] at hnested
      refine hrest (s.scopeOf id) id ?_ (hnested.flow_scope hsound.wired)
      rw [Cursor.head?_eq hsound.active, hlist]
      rfl
    refine ⟨fun _ => hnested.getLast?, fun scope hmem => ?_, hnested.isChain hsound.wired⟩
    obtain ⟨before, after, hsplit⟩ := List.append_of_mem hmem
    exact hnested.runs hsound.wired hopen ⟨before, hsplit.symm⟩

/-! ## What a pull hands out -/

theorem answer?_eq_task {result : Except Error Turn} {id : TaskId}
    (hanswer : Turn.answer? result = some (.task id)) : result = .ok (.handOut id) := by
  cases result with
  | error error => cases hanswer
  | ok turn =>
      cases turn with
      | handOut task =>
          cases hanswer
          rfl
      | ended => cases hanswer
      | again => cases hanswer

/-- A turn hands out the current child of the innermost flow. -/
theorem Turned.handsOut {s s' : Session} {id : TaskId} (hturned : s.Turned (.ok (.handOut id)) s') :
    ∃ scope owner flow child inner, s.AtChild scope owner flow child inner ∧ child.task = id ∧
      (s' = s ∨ s' = s.markInterrupted owner) := by
  cases hturned with
  | left _ _ _ _ _ hleave =>
      unfold leave at hleave
      dsimp only at hleave
      split_ifs at hleave <;> cases hleave
  | interrupted hat => exact ⟨_, _, _, _, _, hat, rfl, .inr rfl⟩
  | waiting hat => exact ⟨_, _, _, _, _, hat, rfl, .inl rfl⟩

/-- A pull hands out the current child of the innermost flow. -/
theorem childOf_of_pullWithin {s s' : Session} {turns : Nat} {id : TaskId} (hsound : s.Sound)
    (hpull : s.pullWithin turns = (.task id, s')) :
    ∃ scope owner task flow childScope, s'.active.head? = some scope ∧
      s'.Runs scope owner task flow ∧ s'.ChildOf owner flow id childScope := by
  obtain ⟨count, r, result, hturns, hlast, hanswer⟩ := exists_last_turn hpull (by simp)
  cases answer?_eq_task hanswer
  have hsound' := Moves.sound hturns.moves hsound
  have hturned := turned hlast
  obtain ⟨scope, owner, flow, child, inner, hat, rfl, hsame⟩ := hturned.handsOut
  obtain ⟨task, hwork⟩ := hat.working
  obtain ⟨hscope, howner, hownerScope, -⟩ := hat.places hsound'.wired
  rw [scopeOf_eq_of_taskAt? hwork.here] at hownerScope
  have hgrows := hturned.grows
  obtain ⟨inner', hinner', hskeleton, -⟩ := hgrows.tasks hat.inner
  have hchild : ∃ task, s'.task child.task = .ok task ∧ task.scope = child.scope ∧
      task.owner = some owner :=
    ⟨inner', task_eq_ok_iff.mpr hinner', (Task.scope_of_skeleton hskeleton).trans hscope,
      (Task.owner_of_skeleton hskeleton).trans howner⟩
  have hbound := hgrows.scope_flow hwork.bound
  rcases hsame with rfl | rfl
  · exact ⟨scope, owner, task, flow, child.scope, hwork.head,
      ⟨hbound, task_eq_ok_iff.mpr hwork.here, hownerScope, hwork.runs, hwork.incomplete⟩,
      ⟨child, hat.current, rfl, rfl⟩, hchild⟩
  · have hmarked : (r.markInterrupted owner).taskAt? owner =
        some (task.mapFlow Flow.interrupted) := by
      rw [markInterrupted_eq, taskAt?_modifyFlow, if_pos rfl, hwork.here]
      rfl
    have hothers := Task.mapFlow_others Flow.interrupted task
    have hruns : (task.mapFlow Flow.interrupted).flow? = some flow.interrupted := by
      rw [Task.flow?_mapFlow, hwork.runs]
      rfl
    have hcurrent : flow.interrupted.current = some { child with interrupted := true } := by
      rw [Flow.interrupted, hat.current]
      rfl
    exact ⟨scope, owner, _, _, child.scope, hwork.head,
      ⟨hbound, task_eq_ok_iff.mpr hmarked, hothers.2.1.trans hownerScope, hruns,
        hothers.2.2.2.trans hwork.incomplete⟩, ⟨_, hcurrent, rfl, rfl⟩, hchild⟩

/-! ## What an open nested flow holds back -/

theorem IsOpen.of_grows {s s' : Session} {id : TaskId} {task : Task} (hopen : s'.IsOpen id)
    (hgrows : Grows s s') (htask : s.taskAt? id = some task) : task.complete = false := by
  obtain ⟨task', htask', hincomplete⟩ := hopen
  obtain ⟨found, hfound, -, hcomplete⟩ := hgrows.tasks htask
  rw [task_eq_ok_iff.mp htask'] at hfound
  cases hfound
  cases hbefore : task.complete with
  | false => rfl
  | true =>
      rw [hcomplete hbefore] at hincomplete
      cases hincomplete

theorem HasOpen.lookup {s : Session} {outer inner : TaskId} (hhas : s.HasOpen outer inner) :
    ∃ flow child task, s.flowAt? outer = some flow ∧ flow.current = some child ∧
      child.task = inner ∧ s.taskAt? inner = some task ∧ task.isFlow = true := by
  obtain ⟨flow, child, task, hflow, hcurrent, hchild, htask, hisFlow⟩ := hhas
  exact ⟨flow, child, task, flow_eq_ok_iff.mp hflow, hcurrent, hchild, task_eq_ok_iff.mp htask,
    hisFlow⟩

theorem hasOpen_iff {s : Session} {outer inner : TaskId} :
    s.HasOpen outer inner ↔
      ((s.flowAt? outer).bind Flow.current).map Child.task = some inner ∧
        (s.taskAt? inner).map Task.isFlow = some true := by
  constructor
  · intro hhas
    obtain ⟨flow, child, task, hflow, hcurrent, rfl, htask, hisFlow⟩ := hhas.lookup
    simp [hflow, hcurrent, htask, hisFlow]
  · rintro ⟨hchild, htask⟩
    obtain ⟨child, hcurrent, rfl⟩ := Option.map_eq_some_iff.mp hchild
    obtain ⟨flow, hflow, hcurrent⟩ := Option.bind_eq_some_iff.mp hcurrent
    obtain ⟨task, htask, hisFlow⟩ := Option.map_eq_some_iff.mp htask
    exact ⟨flow, child, task, flow_eq_ok_iff.mpr hflow, hcurrent, rfl, task_eq_ok_iff.mpr htask,
      hisFlow⟩

instance (s : Session) (outer inner : TaskId) : Decidable (s.HasOpen outer inner) :=
  decidable_of_iff _ hasOpen_iff.symm

theorem HasOpen.of_lookup {s s' : Session} {outer inner : TaskId} {flow : Flow} {child : Child}
    {task : Task} (hgrows : Grows s s') (hflow : s'.flowAt? outer = some flow)
    (hcurrent : flow.current = some child) (hchild : child.task = inner)
    (htask : s.taskAt? inner = some task) (hisFlow : task.isFlow = true) :
    s'.HasOpen outer inner := by
  obtain ⟨task', htask', hskeleton, -⟩ := hgrows.tasks htask
  exact ⟨flow, child, task', flow_eq_ok_iff.mpr hflow, hcurrent, hchild,
    task_eq_ok_iff.mpr htask', (Task.isFlow_of_skeleton hskeleton).trans hisFlow⟩

/-- The turn of a flow with an open nested flow enters that flow or hands it out, unless it leaves
the flow itself. -/
theorem turn_of_hasOpen {s s' : Session} {result : Except Error Turn} {scope : ScopeId}
    {outer inner : TaskId} {task : Task} (hturn : s.turn = (result, s'))
    (hhead : s.active.head? = some scope) (hbound : (s.scope scope).flow = some outer)
    (hhas : s.HasOpen outer inner) (htask : s.taskAt? inner = some task)
    (hopen : task.complete = false) :
    s'.tasks = s.tasks ∧ (∀ id, result ≠ .ok (.handOut id)) ∨
      s' = s.markInterrupted outer ∧ result = .ok (.handOut inner) := by
  obtain ⟨flow, child, found, hflow, hcurrent, rfl, hfound, hisFlow⟩ := hhas.lookup
  rw [htask] at hfound
  cases hfound
  obtain ⟨outerTask, houter, hruns⟩ := flowAt?_eq_some_iff.mp hflow
  cases hredirected : s.redirectedTo with
  | some url =>
      rw [turn_of_not_running (.inl (by rw [hredirected]; rfl))] at hturn
      cases hturn
      exact .inl ⟨rfl, by simp⟩
  | none =>
      cases hcomplete : outerTask.complete with
      | true =>
          rw [turn_of_complete hredirected hhead hbound houter hcomplete, leave] at hturn
          dsimp only at hturn
          split_ifs at hturn <;> cases hturn <;> exact .inl ⟨rfl, by simp⟩
      | false =>
          have hat : s.AtChild scope outer flow child task :=
            ⟨⟨outerTask, hredirected, hhead, hbound, houter, hcomplete, hruns⟩, hcurrent, htask⟩
          have hinput : task.requiresInput = false := by
            obtain ⟨inside, hinside⟩ := Option.isSome_iff_exists.mp hisFlow
            rw [Task.flow?_eq_some_iff] at hinside
            simp [Task.requiresInput, hinside]
          rw [hat.turn_eq] at hturn
          by_cases hbreak :
              (!child.interrupted && s.settings.breakpoints.contains task.name) = true
          · rw [if_pos hbreak] at hturn
            cases hturn
            exact .inr ⟨rfl, rfl⟩
          · rw [if_neg hbreak, if_neg (by simp [hinput]), if_pos (by simp [hisFlow, hopen])]
              at hturn
            cases hturn
            exact .inl ⟨rfl, by simp⟩

/-- While a nested flow is open, a turn leaves it the child of its flow, opens nothing else of that
flow, and hands out nothing else of it. -/
theorem HasOpen.turn {s s' : Session} {result : Except Error Turn} {outer inner : TaskId}
    (hhas : s.HasOpen outer inner) (hsound : s.Sound) (hturn : s.turn = (result, s'))
    (hopen : s'.IsOpen inner) :
    s'.HasOpen outer inner ∧
      (∀ id task, s'.taskAt? id = some task → task.owner = some outer →
        id.index < s.tasks.size) ∧
      ∀ id, result = .ok (.handOut id) → s'.ownerOf id = some outer → id = inner := by
  have hturned := turned hturn
  have hgrows := hturned.grows
  obtain ⟨flow, child, task, hflow, hcurrent, hchild, htask, hisFlow⟩ := hhas.lookup
  have hincomplete := hopen.of_grows hgrows htask
  have hold : s'.tasks.size = s.tasks.size → ∀ id task, s'.taskAt? id = some task →
      task.owner = some outer → id.index < s.tasks.size := by
    intro hsize id task hfound _
    exact hsize ▸ taskAt?_lt hfound
  cases hhead : s.active.head? with
  | none =>
      rw [turn_of_not_running (.inr hhead)] at hturn
      cases hturn
      exact ⟨hhas, hold rfl, by simp⟩
  | some scope =>
      obtain ⟨innermost, rest, -, -, hbound⟩ := hsound.head hhead
      by_cases hself : innermost = outer
      · subst hself
        rcases turn_of_hasOpen hturn hhead hbound hhas htask hincomplete with
          ⟨htasks, hnot⟩ | ⟨rfl, rfl⟩
        · have hflow' : s'.flowAt? innermost = some flow := by
            rw [flowAt?, taskAt?, htasks]
            exact hflow
          exact ⟨.of_lookup hgrows hflow' hcurrent hchild htask hisFlow, hold (by rw [htasks]),
            fun id hresult => absurd hresult (hnot id)⟩
        · refine ⟨?_, hold (by simp [markInterrupted]), ?_⟩
          · have hflow' : (s.markInterrupted innermost).flowAt? innermost =
                some flow.interrupted := by
              rw [markInterrupted_eq, flowAt?_modifyFlow_self, hflow]
              rfl
            have hcurrent' :
                flow.interrupted.current = some { child with interrupted := true } := by
              rw [Flow.interrupted, hcurrent]
              rfl
            exact .of_lookup hgrows hflow' hcurrent' hchild htask hisFlow
          · intro id hresult _
            cases hresult
            rfl
      · have hlt : outer.index < s.tasks.size := by
          obtain ⟨outerTask, houter, -⟩ := flowAt?_eq_some_iff.mp hflow
          exact taskAt?_lt houter
        have hnext : outer ≠ s.nextTask := TaskId.ne_of_lt hlt
        have hflow' := (hturned.flowAt?_of_ne hsound.wired hhead hbound hself hnext).trans hflow
        refine ⟨.of_lookup hgrows hflow' hcurrent hchild htask hisFlow, ?_, ?_⟩
        · rcases hturned.tasks_size with hsize |
            ⟨scope', id', flow', decl, activity, hat, -, -, rfl⟩
          · exact hold hsize
          · obtain ⟨working, hwork⟩ := hat.working
            obtain ⟨rfl, rfl⟩ := hwork.unique hhead hbound
            intro id found hfound howner
            rw [taskAt?_openChild s (taskAt?_lt hwork.here)] at hfound
            split_ifs at hfound with hnew hsame
            · cases hfound
              exact absurd (Option.some.inj howner) hself
            · rw [← hsame]
              exact taskAt?_lt hwork.here
            · exact taskAt?_lt hfound
        · rintro id rfl howner
          obtain ⟨scope', id', flow', child', inner', hat, rfl, -⟩ := hturned.handsOut
          obtain ⟨working, hwork⟩ := hat.working
          obtain ⟨rfl, rfl⟩ := hwork.unique hhead hbound
          obtain ⟨-, howner', -⟩ := hat.places hsound.wired
          obtain ⟨found, hfound, hskeleton, -⟩ := hgrows.tasks hat.inner
          rw [ownerOf_eq_of_taskAt? hfound, Task.owner_of_skeleton hskeleton, howner'] at howner
          exact absurd (Option.some.inj howner) hself

/-- The turns of a pull open nothing of a flow that has a nested flow open. -/
theorem HasOpen.turns {count : Nat} {s r : Session} {outer inner : TaskId}
    (hhas : s.HasOpen outer inner) (hsound : s.Sound) (hturns : Turns count s r)
    (hopen : r.IsOpen inner) :
    r.HasOpen outer inner ∧ ∀ id task, r.taskAt? id = some task → task.owner = some outer →
      id.index < s.tasks.size := by
  induction hturns with
  | refl => exact ⟨hhas, fun id task htask _ => taskAt?_lt htask⟩
  | @turn count s s₁ r hturn hrest ih =>
      have hturned := turned hturn
      obtain ⟨-, -, task, -, -, -, htask, -⟩ := hhas.lookup
      obtain ⟨task₁, htask₁, -⟩ := hturned.grows.tasks htask
      have hgrows := Moves.grows hrest.moves
      have hopen₁ : s₁.IsOpen inner :=
        ⟨task₁, task_eq_ok_iff.mpr htask₁, hopen.of_grows hgrows htask₁⟩
      obtain ⟨hhas₁, hnew, -⟩ := hhas.turn hsound hturn hopen₁
      obtain ⟨hhas', hnew'⟩ := ih hhas₁ (hturned.sound hsound) hopen
      refine ⟨hhas', fun id found hfound howner => ?_⟩
      have hlt := hnew' id found hfound howner
      obtain ⟨before, hat₁, hskeleton⟩ := hgrows.exists_before hfound hlt
      exact hnew id _ hat₁ ((Task.owner_of_skeleton hskeleton).symm.trans howner)

/-- No operation opens anything of a flow that has a nested flow open. -/
theorem HasOpen.step {s s' : Session} {outer inner : TaskId} (hhas : s.HasOpen outer inner)
    (hsound : s.Sound) (hstep : s.Step s') (hopen : s'.IsOpen inner) {id : TaskId} {task : Task}
    (htask : s'.taskAt? id = some task) (howner : task.owner = some outer) :
    id.index < s.tasks.size := by
  have hold : s'.tasks.size = s.tasks.size → id.index < s.tasks.size :=
    fun hsize => hsize ▸ taskAt?_lt htask
  cases hstep with
  | @pulled turns answer _ hpull hanswer =>
      obtain ⟨count, r, result, hturns, hlast, -⟩ := exists_last_turn hpull hanswer
      have hall : Relation.ReflTransGen Move s s' := hturns.moves.tail (.turn hlast)
      have hgrows := (turned hlast).grows
      obtain ⟨-, -, first, -, -, -, hfirst, -⟩ := hhas.lookup
      obtain ⟨last, hlastTask, -⟩ := (Moves.grows hturns.moves).tasks hfirst
      have hopen' : r.IsOpen inner :=
        ⟨last, task_eq_ok_iff.mpr hlastTask, hopen.of_grows hgrows hlastTask⟩
      obtain ⟨hhas', hnew⟩ := hhas.turns hsound hturns hopen'
      obtain ⟨-, hnew', -⟩ := hhas'.turn (Moves.sound hturns.moves hsound) hlast hopen
      have hlt := hnew' id task htask howner
      obtain ⟨before, hat, hskeleton⟩ := hgrows.exists_before htask hlt
      exact hnew id _ hat ((Task.owner_of_skeleton hskeleton).symm.trans howner)
  | filledIn other field value => exact hold (fillIn_acts s other field value).tasks_size
  | clicked other component => exact hold (click_acts s other component).tasks_size
  | answered other value => exact hold (answer_acts s other value).tasks_size
  | breakpointSet name => exact hold rfl

/-- No pull hands out another task of a flow that has a nested flow open. -/
theorem HasOpen.pullWithin {s s' : Session} {turns : Nat} {outer inner id : TaskId}
    (hhas : s.HasOpen outer inner) (hsound : s.Sound)
    (hpull : s.pullWithin turns = (.task id, s')) (hopen : s'.IsOpen inner)
    (howner : s'.ownerOf id = some outer) : id = inner := by
  obtain ⟨count, r, result, hturns, hlast, hanswer⟩ := exists_last_turn hpull (by simp)
  obtain ⟨-, -, first, -, -, -, hfirst, -⟩ := hhas.lookup
  obtain ⟨last, hlastTask, -⟩ := (Moves.grows hturns.moves).tasks hfirst
  have hopen' : r.IsOpen inner :=
    ⟨last, task_eq_ok_iff.mpr hlastTask, hopen.of_grows (turned hlast).grows hlastTask⟩
  have hhas' := (hhas.turns hsound hturns hopen').1
  exact (hhas'.turn (Moves.sound hturns.moves hsound) hlast hopen).2.2 id
    (answer?_eq_task hanswer) howner

/-! ## Every run is depth first -/

/-- In every session that a document comes to, by any operations, the call stack runs depth first:
it starts with the scope of the root flow, holds only flows that are not complete, and each scope on
it is that of the current child of the flow below.  A pull hands out the current child of the flow
at the head of the stack.  While a nested flow stays open, no operation opens a task of the flow
around it, and no pull hands out another one. -/
theorem reachable_depthFirst {s : Session} (hreach : s.Reachable) :
    s.DepthFirst ∧
      (∀ turns id s', s.pullWithin turns = (.task id, s') →
        ∃ scope owner task flow childScope, s'.active.head? = some scope ∧
          s'.Runs scope owner task flow ∧ s'.ChildOf owner flow id childScope) ∧
      ∀ outer inner s', s.HasOpen outer inner → s'.IsOpen inner →
        (s.Step s' → ∀ id task, s'.task id = .ok task → task.owner = some outer →
          ∃ before, s.task id = .ok before) ∧
        ∀ turns id, s.pullWithin turns = (.task id, s') → s'.ownerOf id = some outer →
          id = inner := by
  have hsound := hreach.sound
  refine ⟨depthFirst_of_resting hsound hreach.resting, ?_, ?_⟩
  · intro turns id s' hpull
    exact childOf_of_pullWithin hsound hpull
  · intro outer inner s' hhas hopen
    refine ⟨fun hstep id task htask howner => ?_, fun turns id hpull howner => ?_⟩
    · have hlt := hhas.step hsound hstep hopen (task_eq_ok_iff.mp htask) howner
      exact ⟨_, task_eq_ok_iff.mpr (Array.getElem?_eq_getElem hlt)⟩
    · exact hhas.pullWithin hsound hpull hopen howner

/-- A document whose starting flow runs a nested flow of one screen, and then shows a screen of its
own. -/
def nestedDocument : Document where
  repository :=
    { components := []
      validators := []
      flows := [
        ("inner", { tasks := [{ name := "ask", preconditions := [], action := .screen [] }],
                    settings := {} }),
        ("main", { tasks := [
                     { name := "inner", preconditions := [], action := .flow .once none },
                     { name := "thank", preconditions := [], action := .screen [] }],
                   settings := {} })] }
  startingFlow := "main"
  context := .empty
  hash := none

def nestedSession : Session :=
  (initial nestedDocument {} true {}).pull.2

theorem nestedSession_reachable : nestedSession.Reachable :=
  reachable_carryOut [.pull] (by decide +kernel) rfl (by decide +kernel)

/-- With the screen of the nested flow handed out, two flows are on the call stack, and the second
screen of the outer flow has to wait. -/
theorem nestedSession_depthFirst :
    nestedSession.DepthFirst ∧ nestedSession.depth = 2 ∧ nestedSession.HasOpen ⟨0⟩ ⟨1⟩ ∧
      ∀ turns id s', nestedSession.pullWithin turns = (.task id, s') → s'.IsOpen ⟨1⟩ →
        s'.ownerOf id = some ⟨0⟩ → id = ⟨1⟩ := by
  obtain ⟨hdepth, -, hholds⟩ := reachable_depthFirst nestedSession_reachable
  have hhas : nestedSession.HasOpen ⟨0⟩ ⟨1⟩ := by decide +kernel
  exact ⟨hdepth, by decide +kernel, hhas, fun turns id s' hpull hopen =>
    (hholds ⟨0⟩ ⟨1⟩ s' hhas hopen).2 turns id hpull⟩

end Session

end Workflow
