import Workflow.Proofs.Session.Depth
import Workflow.Proofs.Session.Passes
import Workflow.Proofs.Session.Return

/-!
# How long a pull takes

A turn that asks for another one moves some flow on, and a session has only so far to go,
`Session.turnsLeft`: the flows being run have passes to begin, tasks to open and children to finish,
and in each of them no more flows can be nested than are left on the longest chain of references.
Every such turn spends some of this, `turnsLeft_turn`.  So a pull ends from whatever session it
starts, and more turns than are left make no difference to it.
-/

namespace Workflow

namespace Repository

variable {repository : Repository} {limit depth : Nat} {flow : Flow}

/-- The turns that a task takes at most, in a flow in which at most `depth` flows are nested. -/
def taskBound (repository : Repository) (limit depth : Nat) : Nat :=
  repository.turnBound limit depth + 4

/-- The turns that a pass takes at most, from its beginning to its end. -/
def passBound (repository : Repository) (limit depth : Nat) : Nat :=
  repository.maxTasks * repository.taskBound limit depth + 2

/-- The turns that a flow needs at most for the passes that it may still begin and for the tasks
that it has not come to. -/
def turnsLeft (repository : Repository) (limit depth : Nat) (flow : Flow) : Nat :=
  (limit - flow.passes) * repository.passBound limit depth +
    if flow.isLoop ∧ flow.pass = none then 0
    else (repository.maxTasks - flow.cursor) * repository.taskBound limit depth + 1

theorem turnBound_succ (repository : Repository) (limit depth : Nat) :
    repository.turnBound limit (depth + 1) = (limit + 1) * repository.passBound limit depth + 1 :=
  rfl

/-- A loop between passes has no tasks to come to before it begins the next one. -/
theorem turnsLeft_between (hloop : flow.isLoop = true) (hnone : flow.pass = none) :
    repository.turnsLeft limit depth flow =
      (limit - flow.passes) * repository.passBound limit depth := by
  rw [turnsLeft, if_pos ⟨hloop, hnone⟩, Nat.add_zero]

/-- Any other flow has the rest of its tasks before it. -/
theorem turnsLeft_within (hwithin : flow.isLoop = true → flow.pass.isSome = true) :
    repository.turnsLeft limit depth flow =
      (limit - flow.passes) * repository.passBound limit depth +
        ((repository.maxTasks - flow.cursor) * repository.taskBound limit depth + 1) := by
  rw [turnsLeft, if_neg]
  rintro ⟨hloop, hnone⟩
  have hsome := hwithin hloop
  rw [hnone] at hsome
  cases hsome

/-- A flow that is not complete has two more turns to take: it publishes, and it is left. -/
theorem turnsLeft_le (repository : Repository) (limit depth : Nat) (flow : Flow) :
    repository.turnsLeft limit depth flow + 2 ≤ repository.turnBound limit (depth + 1) := by
  have hpasses : (limit - flow.passes) * repository.passBound limit depth ≤
      limit * repository.passBound limit depth := Nat.mul_le_mul_right _ (Nat.sub_le _ _)
  have htasks : (repository.maxTasks - flow.cursor) * repository.taskBound limit depth ≤
      repository.maxTasks * repository.taskBound limit depth :=
    Nat.mul_le_mul_right _ (Nat.sub_le _ _)
  have hpass : repository.passBound limit depth =
      repository.maxTasks * repository.taskBound limit depth + 2 := rfl
  rw [turnBound_succ, turnsLeft, Nat.succ_mul]
  split_ifs <;> omega

/-- Coming to the next task spends what a task takes. -/
theorem turnsLeft_cursor (hcursor : flow.cursor < repository.maxTasks)
    (hwithin : flow.isLoop = true → flow.pass.isSome = true) (current : Option Child) :
    repository.turnsLeft limit depth { flow with cursor := flow.cursor + 1, current } +
      repository.taskBound limit depth = repository.turnsLeft limit depth flow := by
  obtain ⟨left, hleft⟩ := Nat.exists_eq_add_of_lt hcursor
  have hbefore : repository.maxTasks - flow.cursor = left + 1 := by omega
  have hafter : repository.maxTasks - (flow.cursor + 1) = left := by omega
  rw [turnsLeft_within hwithin, turnsLeft_within (by exact hwithin)]
  simp only [hbefore, hafter, Nat.succ_mul]
  omega

/-- Beginning a pass spends a turn more than the pass has before it. -/
theorem turnsLeft_begun (hloop : flow.isLoop = true) (hnone : flow.pass = none)
    (hlimit : flow.passes < limit) (pass : ScopeId) (broke : Bool) :
    repository.turnsLeft limit depth
        { flow with pass := some pass, cursor := 0, broke, passes := flow.passes + 1 } + 1 =
      repository.turnsLeft limit depth flow := by
  obtain ⟨left, hleft⟩ := Nat.exists_eq_add_of_lt hlimit
  have hbefore : limit - flow.passes = left + 1 := by omega
  have hafter : limit - (flow.passes + 1) = left := by omega
  rw [turnsLeft_between hloop hnone, turnsLeft_within fun _ => rfl]
  simp only [hbefore, hafter, Nat.succ_mul, Nat.sub_zero]
  rw [Nat.add_assoc]
  rfl

/-- Ending a pass spends what was left of it. -/
theorem turnsLeft_foldPass (hloop : flow.isLoop = true) (hpass : flow.pass.isSome = true)
    (snapshot : Value) :
    repository.turnsLeft limit depth (flow.foldPass snapshot) <
      repository.turnsLeft limit depth flow := by
  have hafter : repository.turnsLeft limit depth (flow.foldPass snapshot) =
      (limit - flow.passes) * repository.passBound limit depth := turnsLeft_between hloop rfl
  rw [hafter, turnsLeft_within fun _ => hpass]
  exact Nat.lt_add_of_pos_right (Nat.succ_pos _)

end Repository

namespace Session

/-- Whether the task runs a flow that is not complete. -/
def nests (s : Session) (id : TaskId) : Bool :=
  (s.taskAt? id).any fun task => task.isFlow && !task.complete

/-- The turns that the child of a flow takes at most, in which at most `depth` flows are nested. -/
def childTurns (s : Session) (depth : Nat) (flow : Flow) : Nat :=
  match flow.current with
  | none => 0
  | some child =>
    if s.nests child.task then s.repository.turnBound s.settings.maxLoopPasses depth + 3 else 1

/-- The turns that a flow takes at most until it is left, besides those of its child. -/
def flowTurns (s : Session) (depth : Nat) (id : TaskId) : Nat :=
  match s.taskAt? id with
  | none => 0
  | some task =>
    if task.complete then 1
    else task.flow?.elim 0 fun flow =>
      s.repository.turnsLeft s.settings.maxLoopPasses depth flow + 2

/-- The turns that the flows of the given scopes, the innermost first, take at most when the flow
inside is left: each has a child to fold besides its own turns. -/
def turnsAround (s : Session) : Nat → List ScopeId → Nat
  | _, [] => 0
  | depth, scope :: outer =>
    (s.scope scope).flow.elim 0 (s.flowTurns depth) + 1 + s.turnsAround (depth + 1) outer

/-- The turns that a pull takes at most before it ends. -/
def turnsLeft (s : Session) : Nat :=
  match s.active.toList with
  | [] => 0
  | scope :: outer =>
    let depth := s.repository.flows.length - (outer.length + 1)
    let innermost := (s.scope scope).flow
    innermost.elim 0 (s.flowTurns depth) +
      (innermost.bind s.flowAt?).elim 0 (s.childTurns depth) + s.turnsAround (depth + 1) outer

variable {s s' : Session} {id : TaskId} {scope : ScopeId} {flow flow' : Flow} {depth : Nat}

theorem childTurns_of_none (hcurrent : flow.current = none) : s.childTurns depth flow = 0 := by
  rw [childTurns, hcurrent]

theorem childTurns_le (s : Session) (depth : Nat) (flow : Flow) :
    s.childTurns depth flow ≤ s.repository.turnBound s.settings.maxLoopPasses depth + 3 := by
  unfold childTurns
  split
  · exact Nat.zero_le _
  · split_ifs
    · exact Nat.le_refl _
    · omega

theorem childTurns_of_not_nests {child : Child} (hcurrent : flow.current = some child)
    (hleaf : s.nests child.task = false) : s.childTurns depth flow = 1 := by
  simp only [childTurns, hcurrent, hleaf, Bool.false_eq_true, ↓reduceIte]

theorem flowTurns_of_isComplete (hcomplete : s.IsComplete id) : s.flowTurns depth id = 1 := by
  obtain ⟨task, htask, hdone⟩ := hcomplete
  simp only [flowTurns, htask, hdone, ↓reduceIte]

theorem flowTurns_of_open {task : Task} (htask : s.taskAt? id = some task)
    (hopen : task.complete = false) (hruns : task.flow? = some flow) :
    s.flowTurns depth id =
      s.repository.turnsLeft s.settings.maxLoopPasses depth flow + 2 := by
  simp only [flowTurns, htask, hopen, hruns, Bool.false_eq_true, ↓reduceIte, Option.elim_some]

/-- Complete or not, a flow takes no more turns than its passes and tasks and two more. -/
theorem flowTurns_le_of_flowAt? (hflow : s.flowAt? id = some flow) :
    s.flowTurns depth id ≤
      s.repository.turnsLeft s.settings.maxLoopPasses depth flow + 2 := by
  obtain ⟨task, htask, hruns⟩ := flowAt?_eq_some_iff.mp hflow
  by_cases hdone : task.complete = true
  · rw [flowTurns_of_isComplete ⟨task, htask, hdone⟩]
    omega
  · rw [flowTurns_of_open htask (by simpa using hdone) hruns]

theorem flowTurns_le (s : Session) (depth : Nat) (id : TaskId) :
    s.flowTurns depth id ≤
      s.repository.turnBound s.settings.maxLoopPasses (depth + 1) := by
  unfold flowTurns
  split
  · exact Nat.zero_le _
  · split_ifs
    · rw [Repository.turnBound_succ]
      exact Nat.succ_pos _
    · next task _ _ =>
        cases task.flow? with
        | none => exact Nat.zero_le _
        | some flow => exact Repository.turnsLeft_le _ _ _ flow

theorem turnsLeft_eq {outer : List ScopeId} (hlist : s.active.toList = scope :: outer)
    (hbound : (s.scope scope).flow = some id) (hflow : s.flowAt? id = some flow) :
    s.turnsLeft = s.flowTurns (s.repository.flows.length - (outer.length + 1)) id +
      s.childTurns (s.repository.flows.length - (outer.length + 1)) flow +
        s.turnsAround (s.repository.flows.length - (outer.length + 1) + 1) outer := by
  simp only [turnsLeft, hlist, hbound, hflow, Option.elim_some, Option.bind_some]

theorem turnsAround_cons {outer : List ScopeId} (hbound : (s.scope scope).flow = some id) :
    s.turnsAround depth (scope :: outer) =
      s.flowTurns depth id + 1 + s.turnsAround (depth + 1) outer := by
  rw [turnsAround, hbound, Option.elim_some]

theorem flowTurns_congr (hgrows : Grows s s') (hsame : s'.taskAt? id = s.taskAt? id)
    (depth : Nat) : s'.flowTurns depth id = s.flowTurns depth id := by
  rw [flowTurns, hsame, hgrows.repository, hgrows.limit, flowTurns]

/-- The flows on a chain take as many turns as before, if none of them has changed. -/
theorem Nested.turnsAround_congr {scopes : List ScopeId} (hnested : s.Nested id scopes)
    (hwired : s.Wired) (hgrows : Grows s s')
    (hsame : ∀ other : TaskId, other.index ≤ id.index → s'.taskAt? other = s.taskAt? other)
    (depth : Nat) : s'.turnsAround depth scopes = s.turnsAround depth scopes := by
  induction hnested generalizing depth with
  | root =>
      have hbound := (Nested.root (s := s)).flow_scope hwired
      rw [turnsAround_cons hbound, turnsAround_cons (hgrows.scope_flow hbound),
        flowTurns_congr hgrows (hsame _ (Nat.le_refl _))]
      rfl
  | @child outer scopes task flow child inner houter htask hopen hruns hcurrent hinner hisFlow ih =>
      have hbound :=
        (Nested.child houter htask hopen hruns hcurrent hinner hisFlow).flow_scope hwired
      obtain ⟨-, -, hlt, -⟩ := hwired.child_places
        (flowAt?_eq_some_iff.mpr ⟨task, htask, hruns⟩) hcurrent hinner
      rw [turnsAround_cons hbound, turnsAround_cons (hgrows.scope_flow hbound),
        flowTurns_congr hgrows (hsame _ (Nat.le_refl _)),
        ih (fun other hother => hsame other (hother.trans (Nat.le_of_lt hlt)))]

/-! ## What a turn spends -/

theorem Nested.turnsAround_below {outer : List ScopeId} (hnested : s.Nested id (scope :: outer))
    (hwired : s.Wired) (hgrows : Grows s s')
    (hbelow : ∀ other : TaskId, other.index < id.index → s'.taskAt? other = s.taskAt? other)
    (depth : Nat) : s'.turnsAround depth outer = s.turnsAround depth outer := by
  cases hnested with
  | root => rfl
  | child houter htask _ hruns hcurrent hinner _ =>
      obtain ⟨-, -, hlt, -⟩ := hwired.child_places
        (flowAt?_eq_some_iff.mpr ⟨_, htask, hruns⟩) hcurrent hinner
      exact houter.turnsAround_congr hwired hgrows
        (fun other hother => hbelow other (Nat.lt_of_le_of_lt hother hlt)) depth

/-- A turn that leaves the flows being run spends what the innermost one spends. -/
theorem Working.turnsLeft_lt {task : Task} {result : Except Error Turn}
    (hwork : s.Working scope id task flow) (hturned : s.Turned result s') (hsound : s.Sound)
    (hactive : s'.active = s.active) (hflow' : s'.flowAt? id = some flow')
    (hless : ∀ depth, s'.flowTurns depth id + s'.childTurns depth flow' <
      s.flowTurns depth id + s.childTurns depth flow) : s'.turnsLeft < s.turnsLeft := by
  have hgrows := hturned.grows
  obtain ⟨outer, hlist, hnested⟩ := hwork.nested hsound
  have hlist' : s'.active.toList = scope :: outer := hactive ▸ hlist
  have hbelow := (hturned.sameBelow hsound.wired hwork.head hwork.bound).tasks
  rw [turnsLeft_eq hlist hwork.bound hwork.flowAt?,
    turnsLeft_eq hlist' (hgrows.scope_flow hwork.bound) hflow', hgrows.repository,
    hnested.turnsAround_below hsound.wired hgrows hbelow]
  exact Nat.add_lt_add_right (hless _) _

theorem Working.flowTurns_eq {task : Task} (hwork : s.Working scope id task flow) (depth : Nat) :
    s.flowTurns depth id =
      s.repository.turnsLeft s.settings.maxLoopPasses depth flow + 2 :=
  flowTurns_of_open hwork.here hwork.incomplete hwork.runs

/-- A child that is folded takes no more turns. -/
theorem AtChild.turnsLeft_settled {child : Child} {inner : Task} {ran : Session}
    (hat : s.AtChild scope id flow child inner)
    (hturned : s.Turned (.ok .again) (ran.foldChild id child))
    (hleaf : inner.isFlow = true → inner.complete = true)
    (hrun : s.runChild id child inner = (.ok (), ran)) (hsound : s.Sound) :
    (ran.foldChild id child).turnsLeft < s.turnsLeft := by
  obtain ⟨task, hwork⟩ := hat.working
  have hgrows := hturned.grows
  obtain ⟨broke, hran⟩ := hat.flowAt?_runChild hsound.wired hrun
  have hflow' := flowAt?_foldChild hran child
  have hactive := (foldChild_others ran id child).1.trans (runChild_others hrun).1
  refine hwork.turnsLeft_lt hturned hsound hactive hflow' fun depth => ?_
  have hdone : s.nests child.task = false := by
    rw [nests, hat.inner, Option.any_some]
    cases hflow : inner.isFlow with
    | false => rfl
    | true =>
        rw [hleaf hflow]
        rfl
  have hafter : (ran.foldChild id child).flowTurns depth id ≤ _ := flowTurns_le_of_flowAt? hflow'
  rw [hgrows.repository, hgrows.limit] at hafter
  rw [childTurns_of_none rfl, childTurns_of_not_nests hat.current hdone, hwork.flowTurns_eq]
  exact Nat.lt_succ_of_le hafter

/-- The task that a flow opens is one of those that it has before it. -/
theorem AtStep.cursor_lt {decl : TaskDecl} (hat : s.AtStep scope id flow (.openTask decl)) :
    flow.cursor < s.repository.maxTasks ∧ (flow.isLoop = true → flow.pass.isSome = true) := by
  obtain ⟨declared, hdeclared, hnext⟩ := hat.next
  obtain ⟨-, hwithin, hdecl⟩ := Flow.nextStep_eq_openTask_iff.mp hnext
  obtain ⟨hlt, -⟩ := List.getElem?_eq_some_iff.mp hdecl
  exact ⟨Nat.lt_of_lt_of_le hlt (Repository.length_tasks_le hdeclared), hwithin⟩

/-- A task that is opened or passed over spends what a task takes, and its child takes less. -/
theorem AtStep.turnsLeft_cursor {decl : TaskDecl} {result : Except Error Turn}
    {current : Option Child} (hat : s.AtStep scope id flow (.openTask decl))
    (hturned : s.Turned result s') (hsound : s.Sound) (hactive : s'.active = s.active)
    (hflow' : s'.flowAt? id = some { flow with cursor := flow.cursor + 1, current }) :
    s'.turnsLeft < s.turnsLeft := by
  obtain ⟨task, hwork⟩ := hat.working
  have hgrows := hturned.grows
  refine hwork.turnsLeft_lt hturned hsound hactive hflow' fun depth => ?_
  obtain ⟨hcursor, hwithin⟩ := hat.cursor_lt
  have hspent : s.repository.turnsLeft s.settings.maxLoopPasses depth _ + _ = _ :=
    Repository.turnsLeft_cursor hcursor hwithin current
  have hafter : s'.flowTurns depth id ≤ _ := flowTurns_le_of_flowAt? hflow'
  have hchild := childTurns_le s' depth { flow with cursor := flow.cursor + 1, current }
  rw [hgrows.repository, hgrows.limit] at hafter hchild
  rw [childTurns_of_none hat.current, hwork.flowTurns_eq]
  rw [Repository.taskBound] at hspent
  omega

/-- A step that opens nothing spends what the flow has less before it. -/
theorem AtStep.turnsLeft_lt {step : FlowStep} {result : Except Error Turn}
    (hat : s.AtStep scope id flow step) (hturned : s.Turned result s') (hsound : s.Sound)
    (hactive : s'.active = s.active) (hflow' : s'.flowAt? id = some flow')
    (hcurrent : flow'.current = none)
    (hless : ∀ depth, s'.flowTurns depth id <
      s.repository.turnsLeft s.settings.maxLoopPasses depth flow + 2) :
    s'.turnsLeft < s.turnsLeft := by
  obtain ⟨task, hwork⟩ := hat.working
  refine hwork.turnsLeft_lt hturned hsound hactive hflow' fun depth => ?_
  rw [childTurns_of_none hcurrent, childTurns_of_none hat.current, hwork.flowTurns_eq]
  exact hless depth

theorem AtStep.turnsLeft_passOpened (hat : s.AtStep scope id flow .nextPass)
    (hturned : s.Turned (.ok .again) (s.openPass id flow)) (hsound : s.Sound)
    (hlimit : flow.passes < s.settings.maxLoopPasses) :
    (s.openPass id flow).turnsLeft < s.turnsLeft := by
  obtain ⟨task, hwork⟩ := hat.working
  obtain ⟨declared, -, hnext⟩ := hat.next
  obtain ⟨hloop, hnone⟩ := Flow.of_nextPass hnext
  have hgrows := hturned.grows
  have hflow' : (s.openPass id flow).flowAt? id = some { flow with
      pass := some s.nextScope, cursor := 0, broke := false, passes := flow.passes + 1 } := by
    rw [flowAt?_openPass, hwork.flowAt?]
    rfl
  refine hat.turnsLeft_lt hturned hsound rfl hflow' hat.current fun depth => ?_
  have hafter : (s.openPass id flow).flowTurns depth id ≤ _ := flowTurns_le_of_flowAt? hflow'
  have hspent : s.repository.turnsLeft s.settings.maxLoopPasses depth _ + 1 = _ :=
    Repository.turnsLeft_begun hloop hnone hlimit s.nextScope false
  rw [hgrows.repository, hgrows.limit] at hafter
  omega

theorem AtStep.turnsLeft_passEnded {pass : ScopeId} {snapshot : Value}
    (hat : s.AtStep scope id flow .foldPass) (hpass : flow.pass = some pass)
    (hturned : s.Turned (.ok .again) (s.endPass id pass snapshot)) (hsound : s.Sound) :
    (s.endPass id pass snapshot).turnsLeft < s.turnsLeft := by
  obtain ⟨task, hwork⟩ := hat.working
  obtain ⟨declared, -, hnext⟩ := hat.next
  obtain ⟨hloop, -⟩ := Flow.of_foldPass hnext
  have hgrows := hturned.grows
  have hflow' : (s.endPass id pass snapshot).flowAt? id = some (flow.foldPass snapshot) := by
    rw [flowAt?_endPass, hwork.flowAt?]
    rfl
  refine hat.turnsLeft_lt hturned hsound rfl hflow' hat.current fun depth => ?_
  have hafter : (s.endPass id pass snapshot).flowTurns depth id ≤ _ :=
    flowTurns_le_of_flowAt? hflow'
  have hspent : s.repository.turnsLeft s.settings.maxLoopPasses depth _ < _ :=
    Repository.turnsLeft_foldPass hloop (by rw [hpass]; rfl) snapshot
  rw [hgrows.repository, hgrows.limit] at hafter
  omega

/-- A flow that has published is only left. -/
theorem AtStep.turnsLeft_published {step : FlowStep} {mark : Bool} {value : Value}
    (hat : s.AtStep scope id flow step)
    (hturned : s.Turned (.ok .again) (s.published id mark value)) (hsound : s.Sound) :
    (s.published id mark value).turnsLeft < s.turnsLeft := by
  obtain ⟨task, hwork⟩ := hat.working
  have hflow' : (s.published id mark value).flowAt? id = some (flow.concluded mark) := by
    rw [flowAt?_published, hwork.flowAt?]
    rfl
  have hdone : (s.published id mark value).IsComplete id := by
    obtain ⟨found, hfound, -⟩ := flowAt?_eq_some_iff.mp hflow'
    refine ⟨found, hfound, ?_⟩
    rw [Session.published, taskAt?_complete, if_pos rfl] at hfound
    obtain ⟨before, -, rfl⟩ := Option.map_eq_some_iff.mp hfound
    rfl
  refine hat.turnsLeft_lt hturned hsound (concluded_others s id mark).1 hflow'
    ((current_concluded flow mark).trans hat.current) fun depth => ?_
  rw [flowTurns_of_isComplete hdone]
  omega

/-- The turns left of a session that differs in the flows being run. -/
theorem Nested.turnsLeft_eq {active : Cursor ScopeId} {outer : List ScopeId}
    (hnested : s.Nested id (scope :: outer)) (hwired : s.Wired)
    (hlist : active.toList = scope :: outer) (hflow : s.flowAt? id = some flow)
    (hdepth : s.repository.flows.length = depth + (outer.length + 1)) :
    Session.turnsLeft { s with active } =
      s.flowTurns depth id + s.childTurns depth flow + s.turnsAround (depth + 1) outer := by
  have hsame : Grows s { s with active } := .of_same rfl rfl rfl rfl rfl
  have hplace : s.repository.flows.length - (outer.length + 1) = depth := by omega
  have haround := hnested.turnsAround_below hwired hsame (fun _ _ => rfl) (depth + 1)
  have hleft := Session.turnsLeft_eq (s := { s with active }) hlist (hnested.flow_scope hwired)
    hflow
  dsimp only at hleft
  rw [hplace, haround] at hleft
  exact hleft

/-- Leaving a flow spends its last turn; the flow around it has it as a child to fold. -/
theorem turnsLeft_left {task : Task} (hsound : s.Sound) (hhead : s.active.head? = some scope)
    (hbound : (s.scope scope).flow = some id) (htask : s.taskAt? id = some task)
    (hcomplete : task.complete = true)
    (hdepth : s.active.toList.length ≤ s.repository.flows.length)
    (hleave : s.leave scope = (.ok .again, s')) : s'.turnsLeft < s.turnsLeft := by
  have hwired := hsound.wired
  obtain ⟨outer, hlist, hnested⟩ := hsound.nested_head hhead hbound
  have hpopped : s.active.pop.toList = outer := by
    rw [Cursor.toList_pop hsound.active, hlist]
    rfl
  obtain ⟨depth, hdepth⟩ := Nat.exists_eq_add_of_le' (hlist ▸ hdepth)
  obtain ⟨nested, hnests⟩ : ∃ nested, task.flow? = some nested := by
    obtain ⟨found, hfound, hisFlow⟩ := hnested.isFlow hwired
    rw [htask] at hfound
    cases hfound
    exact Option.isSome_iff_exists.mp hisFlow
  have hbefore := hnested.turnsLeft_eq hwired hlist
    (flowAt?_eq_some_iff.mpr ⟨task, htask, hnests⟩) hdepth
  rw [flowTurns_of_isComplete ⟨task, htask, hcomplete⟩] at hbefore
  unfold leave at hleave
  dsimp only at hleave
  rw [Cursor.isEmpty_eq hsound.active.pop, hpopped] at hleave
  cases hnested with
  | root => cases hleave
  | @child owner scopes _ flow child inner houter houterTask _ hruns hcurrent =>
      obtain ⟨rest, rfl⟩ := houter.eq_cons hwired
      cases hleave
      have hdone : s.nests child.task = false := by
        rw [nests, htask, Option.any_some, hcomplete]
        simp
      have hplace : s.repository.flows.length = depth + 1 + (rest.length + 1) := by
        rw [hdepth, List.length_cons, List.length_cons]
        omega
      have hafter := houter.turnsLeft_eq hwired hpopped
        (flowAt?_eq_some_iff.mpr ⟨_, houterTask, hruns⟩) hplace
      rw [turnsAround_cons (houter.flow_scope hwired)] at hbefore
      rw [childTurns_of_not_nests hcurrent hdone] at hafter
      rw [hafter, hbefore]
      omega

/-- Entering a nested flow spends what its owner had for it, less what it takes itself. -/
theorem AtChild.turnsLeft_entered {child : Child} {inner : Task}
    (hat : s.AtChild scope id flow child inner) (hisFlow : inner.isFlow = true)
    (hopen : inner.complete = false) (horderly : s.Orderly)
    (hdepth : s.active.toList.length < s.repository.flows.length) :
    Session.turnsLeft { s with active := s.active.push child.scope } < s.turnsLeft := by
  have hsound := horderly.sound
  have hwired := hsound.wired
  obtain ⟨task, hwork⟩ := hat.working
  obtain ⟨outer, hlist, hnested⟩ := hwork.nested hsound
  have hpushed : (s.active.push child.scope).toList = child.scope :: scope :: outer := by
    rw [Cursor.toList_push hsound.active, hlist]
  obtain ⟨depth, hdepth⟩ := Nat.exists_eq_add_of_le' (Nat.succ_le_of_lt (hlist ▸ hdepth))
  obtain ⟨nested, hnests⟩ := Option.isSome_iff_exists.mp hisFlow
  have hfresh : nested.current = none :=
    horderly.accounted.steady.pristine id flow child inner nested (hlist ▸ hnested) hwork.flowAt?
      hat.current hat.inner hopen hnests
  have hopened : s.nests child.task = true := by
    rw [nests, hat.inner, Option.any_some, hisFlow, hopen]
    rfl
  have hchild : s.childTurns (depth + 1) flow =
      s.repository.turnBound s.settings.maxLoopPasses (depth + 1) + 3 := by
    simp only [childTurns, hat.current, hopened, ↓reduceIte]
  have hspent := flowTurns_le s depth child.task
  have hinside := Nested.child hnested hwork.here hwork.incomplete hwork.runs hat.current hat.inner
    hisFlow
  have hnested' := flowAt?_eq_some_iff.mpr ⟨inner, hat.inner, hnests⟩
  rw [hinside.turnsLeft_eq hwired hpushed hnested' hdepth, childTurns_of_none hfresh,
    turnsAround_cons hwork.bound]
  have hplace : s.repository.flows.length = depth + 1 + (outer.length + 1) := by
    rw [hdepth, List.length_cons]
    omega
  have hbefore := hnested.turnsLeft_eq hwired hlist hwork.flowAt? hplace
  rw [hchild] at hbefore
  rw [hbefore]
  omega

/-- A turn that asks for another one spends some of the turns left. -/
theorem turnsLeft_turn (hturn : s.turn = (.ok .again, s')) (horderly : s.Orderly)
    (hacyclic : s.repository.Acyclic) : s'.turnsLeft < s.turnsLeft := by
  have hsound := horderly.sound
  have hturned := turned hturn
  have hdepth := horderly.length_active_le hacyclic
  have hdepth' : s'.active.toList.length ≤ s.repository.flows.length := by
    have hrepository := hturned.grows.repository
    have hafter := (Moment.orderly (.turn hturn) horderly).length_active_le (hrepository ▸ hacyclic)
    rwa [hrepository] at hafter
  have hcase := hturned
  cases hcase with
  | unbound hhead hflow =>
      obtain ⟨id, outer, -, -, hbound⟩ := hsound.head hhead
      rw [hflow] at hbound
      cases hbound
  | left _ hhead hbound htask hcomplete hleave =>
      exact turnsLeft_left hsound hhead hbound htask hcomplete hdepth hleave
  | entered hat hisFlow hopen =>
      refine hat.turnsLeft_entered hisFlow hopen horderly ?_
      rwa [Cursor.toList_push hsound.active, List.length_cons] at hdepth'
  | settled hat _ hleaf hrun => exact hat.turnsLeft_settled hturned hleaf hrun hsound
  | @skipped _ id flow _ hat =>
      obtain ⟨task, hwork⟩ := hat.working
      have hflow' : (s.passOver id flow).flowAt? id =
          some { flow with cursor := flow.cursor + 1, current := flow.current } := by
        rw [flowAt?_passOver, if_pos rfl, hwork.flowAt?]
        rfl
      exact hat.turnsLeft_cursor hturned hsound rfl hflow'
  | opened hat =>
      exact hat.turnsLeft_cursor hturned hsound (openChild_others _ _ _ _ _).2.2.2.1
        (flowAt?_openChild hat)
  | passOpened hat _ _ hlimit => exact hat.turnsLeft_passOpened hturned hsound hlimit
  | passEnded hat hpass => exact hat.turnsLeft_passEnded hpass hturned hsound
  | published hat => exact hat.turnsLeft_published hturned hsound

/-- However many turns lead on, they are not more than were left. -/
theorem Turns.count_le {count : Nat} (hturns : Turns count s s') (horderly : s.Orderly)
    (hacyclic : s.repository.Acyclic) : count ≤ s.turnsLeft := by
  induction hturns with
  | refl => exact Nat.zero_le _
  | turn hturn _ ih =>
      have hmoment := Moment.turn hturn
      have hrest := ih (hmoment.orderly horderly) (hmoment.grows.repository ▸ hacyclic)
      exact Nat.lt_of_le_of_lt hrest (turnsLeft_turn hturn horderly hacyclic)

/-! ## All that can be left -/

/-- By what factor the turns left grow from one flow to the flow around it. -/
def turnFactor (s : Session) : Nat :=
  (s.settings.maxLoopPasses + 2) * (8 * s.repository.maxTasks + 8)

theorem turnFactor_ge (s : Session) : 16 ≤ s.turnFactor :=
  Nat.mul_le_mul (show 2 ≤ s.settings.maxLoopPasses + 2 by omega)
    (show 8 ≤ 8 * s.repository.maxTasks + 8 by omega)

theorem turnFactor_pow_succ_ge (s : Session) (depth : Nat) :
    16 * s.turnFactor ^ depth ≤ s.turnFactor ^ (depth + 1) := by
  rw [pow_succ, Nat.mul_comm]
  exact Nat.mul_le_mul_left _ s.turnFactor_ge

theorem turnsAround_le (s : Session) (depth : Nat) (scopes : List ScopeId) :
    s.turnsAround depth scopes + 5 * s.turnFactor ^ depth ≤
      5 * s.turnFactor ^ (depth + scopes.length) := by
  induction scopes generalizing depth with
  | nil => exact Nat.le_of_eq (Nat.zero_add _)
  | cons scope outer ih =>
      have hinner := ih (depth + 1)
      have hflow : (s.scope scope).flow.elim 0 (s.flowTurns depth) + 4 ≤
          4 * s.turnFactor ^ (depth + 1) := by
        have hbound := s.repository.turnBound_le s.settings.maxLoopPasses (depth + 1)
        cases (s.scope scope).flow with
        | none => exact Nat.le_trans (Nat.le_add_left 4 _) hbound
        | some id => exact Nat.le_trans (Nat.add_le_add_right (s.flowTurns_le depth id) 4) hbound
      have hgrows := s.turnFactor_pow_succ_ge depth
      have hlength : depth + (scope :: outer).length = depth + 1 + outer.length := by
        rw [List.length_cons]
        omega
      rw [turnsAround, hlength]
      omega

/-- A pull may take more turns than are left. -/
theorem turnsLeft_lt_turnLimit (hsound : s.Sound)
    (hdepth : s.active.toList.length ≤ s.repository.flows.length) :
    s.turnsLeft < s.turnLimit := by
  have hlimit : s.turnFactor ^ (s.repository.flows.length + 1) ≤ s.turnLimit :=
    Nat.le_add_right _ _
  rcases hsound.nested with hempty | ⟨id, hnested⟩
  · have hnone : s.turnsLeft = 0 := by rw [turnsLeft, hempty]
    rw [hnone]
    exact s.lt_turnLimit (Nat.pow_pos Nat.two_pos)
  · obtain ⟨outer, hlist⟩ := hnested.eq_cons hsound.wired
    rw [hlist] at hnested
    obtain ⟨task, htask, hisFlow⟩ := hnested.isFlow hsound.wired
    obtain ⟨flow, hruns⟩ := Option.isSome_iff_exists.mp hisFlow
    obtain ⟨depth, hdepth⟩ := Nat.exists_eq_add_of_le' (hlist ▸ hdepth)
    rw [List.length_cons] at hdepth
    have hleft : s.turnsLeft = _ := hnested.turnsLeft_eq hsound.wired hlist
      (flowAt?_eq_some_iff.mpr ⟨task, htask, hruns⟩) hdepth
    have hbound := s.repository.turnBound_le s.settings.maxLoopPasses
    have hown := (Nat.add_le_add_right (s.flowTurns_le depth id) 4).trans (hbound (depth + 1))
    have hchild := (Nat.add_le_add_right (s.childTurns_le depth flow) 1).trans (hbound depth)
    have haround := s.turnsAround_le (depth + 1) outer
    have hlength : depth + 1 + outer.length = s.repository.flows.length := by omega
    change _ ≤ 4 * s.turnFactor ^ (depth + 1) at hown
    change _ ≤ 4 * s.turnFactor ^ depth at hchild
    have hinner := s.turnFactor_pow_succ_ge depth
    have houter := s.turnFactor_pow_succ_ge s.repository.flows.length
    rw [hlength] at haround
    omega

/-- In a document whose flows do not refer back to themselves a pull of any session, at any moment
of a run, comes to an answer; and so does one of any number of turns greater than the turns left,
with the same answer. -/
theorem pull_terminates {document : Document} {settings : SessionSettings} {ownsEvents : Bool}
    {start s : Session} (hstart : Session.start document settings ownsEvents = .ok start)
    (hacyclic : document.repository.Acyclic) (hevolves : start.Evolves s) :
    s.pull.1 ≠ .unfinished ∧
      ∀ turns, s.turnsLeft < turns → s.pullWithin turns = s.pull := by
  have horderly := hevolves.orderly (orderly_start hstart).1
  have hrepository : s.repository = document.repository := by
    obtain ⟨declared, -, rfl⟩ := start_eq hstart
    exact hevolves.grows.repository
  have hacyclic' : s.repository.Acyclic := hrepository ▸ hacyclic
  have hlimit := turnsLeft_lt_turnLimit horderly.sound (horderly.length_active_le hacyclic')
  have hfinished : (s.pullWithin s.turnLimit).1 ≠ .unfinished := by
    intro hunfinished
    obtain ⟨r, hturns⟩ := exists_turns_of_unfinished hunfinished
    exact Nat.not_lt.mpr (hturns.count_le horderly hacyclic') hlimit
  exact ⟨hfinished, fun turns hmore => pullWithin_eq_of_answer hfinished fun count r hturns =>
    Nat.lt_of_le_of_lt (hturns.count_le horderly hacyclic') hmore⟩

/-- The session of `surveyDocument` that has gone back from the second question to the first one,
where at most two passes may be made. -/
def surveyAgain : Session :=
  (((initial surveyDocument { maxLoopPasses := 2 } true {}).pull.2.click ⟨2⟩ "next").2.pull.2.click
    ⟨3⟩ "back").2

/-- Its next pull ends after 67 turns at most, whatever it may take. -/
theorem surveyAgain_pull :
    surveyAgain.pull.1 ≠ .unfinished ∧
      ∀ turns, 67 < turns → surveyAgain.pullWithin turns = surveyAgain.pull := by
  have hstart : Session.start surveyDocument { maxLoopPasses := 2 } true =
      .ok (initial surveyDocument { maxLoopPasses := 2 } true {}) :=
    start_initial (by decide +kernel) rfl
  have hacyclic : surveyDocument.repository.Acyclic := by
    apply Repository.acyclic_of_rank fun name => if name = "main" then 1 else 0
    decide
  have hrun : (initial surveyDocument { maxLoopPasses := 2 } true {}).Run surveyAgain :=
    run_carryOut [.pull, .click ⟨2⟩ "next", .pull, .click ⟨3⟩ "back"] (by decide +kernel)
  obtain ⟨horderly, hrest⟩ := orderly_start hstart
  have hevolves := (hrun.drives.evolves horderly hrest).1
  obtain ⟨hfinished, hmore⟩ := pull_terminates hstart hacyclic hevolves
  have hleft : surveyAgain.turnsLeft = 67 := by decide +kernel
  rw [hleft] at hmore
  exact ⟨hfinished, hmore⟩

end Session

end Workflow
