import Workflow.Proofs.Session.Soundness

/-!
# Sessions at rest

Between two operations the innermost flow is not complete, `Session.Resting`: a pull that completes
it goes on to leave it.  Within a pull it may be complete for one turn, but never after a redirect,
where no further turn would leave it.
-/

namespace Workflow

namespace Session

/-- The innermost flow is not complete. -/
def Resting (s : Session) : Prop :=
  ∀ scope id, s.active.head? = some scope → (s.scope scope).flow = some id →
    ∃ task, s.taskAt? id = some task ∧ task.complete = false

/-- All flows on the chain are open if the innermost one is. -/
theorem Nested.incomplete {s : Session} {id other : TaskId} {scopes outer : List ScopeId}
    {scope : ScopeId} (hnested : s.Nested id scopes) (hwired : s.Wired)
    (hopen : ∃ task, s.taskAt? id = some task ∧ task.complete = false)
    (hsuffix : scope :: outer <:+ scopes) (hbound : (s.scope scope).flow = some other) :
    ∃ task, s.taskAt? other = some task ∧ task.complete = false := by
  have hhere : ∀ {id scopes}, s.Nested id scopes → scope :: outer = scopes → id = other := by
    rintro id scopes hnested rfl
    have hsame := hnested.flow_scope hwired
    rw [hbound] at hsame
    exact (Option.some.inj hsame).symm
  induction hnested with
  | root =>
      rcases List.suffix_cons_iff.mp hsuffix with heq | hsuffix
      · exact hhere .root heq ▸ hopen
      · simp at hsuffix
  | @child id scopes task flow child inner houter htask hincomplete hflow hcurrent hinner hisFlow
      ih =>
      rcases List.suffix_cons_iff.mp hsuffix with heq | hsuffix
      · exact hhere (.child houter htask hincomplete hflow hcurrent hinner hisFlow) heq ▸ hopen
      · exact ih ⟨task, htask, hincomplete⟩ hsuffix

/-- A session rests if its innermost flow is one that is known to be open. -/
theorem resting_of_open {s : Session} {scope : ScopeId} {id : TaskId} {task : Task}
    (hhead : s.active.head? = some scope) (hbound : (s.scope scope).flow = some id)
    (htask : s.taskAt? id = some task) (hopen : task.complete = false) : s.Resting := by
  intro scope' id' hhead' hbound'
  rw [hhead] at hhead'
  cases hhead'
  rw [hbound] at hbound'
  cases hbound'
  exact ⟨task, htask, hopen⟩

/-- A change of the innermost flow that does not complete it leaves the session at rest. -/
theorem Working.resting {s s' : Session} {scope : ScopeId} {id : TaskId} {task : Task} {flow : Flow}
    (hwork : s.Working scope id task flow) (hgrows : Grows s s') (hactive : s'.active = s.active)
    {change : Flow → Flow} (htask : s'.taskAt? id = (s.taskAt? id).map (Task.mapFlow change)) :
    s'.Resting := by
  rw [hwork.here] at htask
  apply resting_of_open (by rw [hactive, hwork.head]) (hgrows.scope_flow hwork.bound) htask
  exact (Task.mapFlow_others change task).2.2.2.trans hwork.incomplete

theorem taskAt?_passOver (s : Session) (id : TaskId) (flow : Flow) (other : TaskId) :
    (s.passOver id flow).taskAt? other =
      if id = other then
        (s.taskAt? other).map (Task.mapFlow fun flow => { flow with cursor := flow.cursor + 1 })
      else s.taskAt? other := by
  rw [passOver, taskAt?_closeScope, taskAt?_attempt]

/-- Settling a child changes the flow around it and does not complete it. -/
theorem AtChild.taskAt?_settled {s ran : Session} {scope : ScopeId} {id : TaskId} {flow : Flow}
    {child : Child} {inner : Task} (hat : s.AtChild scope id flow child inner) (hwired : s.Wired)
    (hrun : s.runChild id child inner = (.ok (), ran)) :
    ∃ change, (ran.foldChild id child).taskAt? id = (s.taskAt? id).map (Task.mapFlow change) := by
  obtain ⟨task, hwork⟩ := hat.working
  obtain ⟨-, howner, -, hid, -⟩ := hat.places hwired
  obtain ⟨flow', hflow', -⟩ := (runChild_grows hrun).flowAt? hwork.flowAt?
  have hne : child.task ≠ id := (TaskId.ne_of_lt hid).symm
  have hran : ∃ change, ran.taskAt? id = (s.taskAt? id).map (Task.mapFlow change) := by
    have hsame : (s.taskAt? id).map (Task.mapFlow fun flow => flow) = s.taskAt? id := by
      rw [hwork.here]
      simp [Task.mapFlow_id]
    rcases runChild_cases hrun with ⟨rfl, -⟩ | ⟨effect, heffect, -, rfl⟩
    · exact ⟨_, hsame.symm⟩
    · simp only [taskAt?_complete, if_neg hne]
      cases heffect with
      | updated => exact ⟨_, hsame.symm⟩
      | broken howner' =>
          rw [howner] at howner'
          cases howner'
          exact ⟨_, by rw [taskAt?_modifyFlow, if_pos rfl]⟩
      | announced => exact ⟨_, hsame.symm⟩
  obtain ⟨change, hchange⟩ := hran
  refine ⟨fun flow => { change flow with current := none }, ?_⟩
  rw [foldChild_eq hflow', taskAt?_modifyFlow, if_pos rfl, taskAt?_closeScope,
    taskAt?_modifyScope, hchange, Option.map_map]
  congr 1
  funext task
  exact Task.mapFlow_mapFlow _ _ task

/-- A flow that has another one open is not complete. -/
theorem Nested.outer_open {s : Session} {id : TaskId} {scope next : ScopeId}
    {outer : List ScopeId} (hnested : s.Nested id (scope :: next :: outer)) :
    ∃ other task, s.Nested other (next :: outer) ∧ s.taskAt? other = some task ∧
      task.complete = false := by
  cases hnested with
  | child houter htask hopen => exact ⟨_, _, houter, htask, hopen⟩

/-- Leaving the innermost flow leaves the session at rest: the flow around it is not complete. -/
theorem resting_pop {s : Session} {scope : ScopeId} (hsound : s.Sound)
    (hhead : s.active.head? = some scope) : Session.Resting { s with active := s.active.pop } := by
  intro next other hnext hbound
  obtain ⟨id, outer, hlist, hnested, -⟩ := hsound.head hhead
  rw [Cursor.head?_eq hsound.active.pop, Cursor.toList_pop hsound.active, hlist,
    List.tail_cons] at hnext
  obtain ⟨rest, rfl⟩ := List.head?_eq_some_iff.mp hnext
  obtain ⟨found, task, houter, htask, hopen⟩ := hnested.outer_open
  have hsame : (s.scope next).flow = some other := hbound
  rw [houter.flow_scope hsound.wired] at hsame
  cases hsame
  exact ⟨task, htask, hopen⟩

/-- A session that cannot take a turn rests, unless it is redirected. -/
theorem resting_of_stuck {s : Session} {error : Error} (hsound : s.Sound)
    (hturn : s.turn = (.error error, s)) : s.redirectedTo.isSome = true ∨ s.Resting := by
  cases hredirected : s.redirectedTo with
  | some url => exact .inl rfl
  | none =>
      refine .inr fun scope id hhead hbound => ?_
      obtain ⟨outer, -, hnested⟩ := hsound.nested_head hhead hbound
      obtain ⟨task, htask, -⟩ := hnested.isFlow hsound.wired
      refine ⟨task, htask, ?_⟩
      cases hcomplete : task.complete with
      | false => rfl
      | true =>
          rw [turn_of_complete hredirected hhead hbound htask hcomplete, leave] at hturn
          dsimp only at hturn
          split_ifs at hturn <;> cases hturn

/-- A turn leaves a session at rest, unless it does nothing or a flow publishes. -/
theorem Turned.rests {s s' : Session} {result : Except Error Turn} (hturned : s.Turned result s')
    (hsound : s.Sound) :
    (s' = s ∧ (result ≠ .ok .again → s.redirectedTo.isSome = true ∨ s.Resting)) ∨ s'.Resting ∨
      ∃ scope id flow step mark value, s.AtStep scope id flow step ∧
        (step = .publish ∨ step = .nextPass) ∧ result = .ok .again ∧
          s' = s.published id mark value := by
  have hgrows := hturned.grows
  have hself : ∀ {scope id task flow}, s.Working scope id task flow → s.Resting :=
    fun hwork => resting_of_open hwork.head hwork.bound hwork.here hwork.incomplete
  have hwithin : ∀ {scope id task flow} {change : Flow → Flow}, s.Working scope id task flow →
      s'.active = s.active → s'.taskAt? id = (s.taskAt? id).map (Task.mapFlow change) →
      s'.Resting :=
    fun hwork hactive htask => hwork.resting hgrows hactive htask
  cases hturned with
  | idle hidle =>
      refine .inl ⟨rfl, fun _ => hidle.imp_right fun hempty scope id hhead => ?_⟩
      rw [hempty] at hhead
      cases hhead
  | unbound hhead hflow =>
      obtain ⟨id, outer, -, -, hbound⟩ := hsound.head hhead
      rw [hflow] at hbound
      cases hbound
  | stuck hturn => exact .inl ⟨rfl, fun _ => resting_of_stuck hsound hturn⟩
  | @left scope _ _ _ _ _ hhead _ _ _ hleave =>
      have hpopped := resting_pop hsound hhead
      unfold leave at hleave
      dsimp only at hleave
      split_ifs at hleave with hempty
      · cases hleave
        refine .inr (.inl fun scope' id hhead' _ => ?_)
        have hnone : s.active.pop.head? = some scope' := hhead'
        rw [Cursor.isEmpty_eq hsound.active.pop, List.isEmpty_iff] at hempty
        rw [Cursor.head?_eq hsound.active.pop, hempty] at hnone
        cases hnone
      · cases hleave
        exact .inr (.inl hpopped)
  | waiting hat =>
      obtain ⟨task, hwork⟩ := hat.working
      exact .inl ⟨rfl, fun _ => .inr (hself hwork)⟩
  | @entered _ id _ child inner hat hisFlow hopen =>
      obtain ⟨hscope, -⟩ := hat.places hsound.wired
      have hhead : (s.active.push child.scope).head? = some child.scope := by
        rw [Cursor.head?_eq (Cursor.valid_push _ _), Cursor.toList_push hsound.active]
        rfl
      have hbound := hsound.wired.flow_scope hat.inner hisFlow
      rw [hscope] at hbound
      exact .inr (.inl (resting_of_open hhead hbound hat.inner hopen))
  | interrupted hat =>
      obtain ⟨task, hwork⟩ := hat.working
      exact .inr (.inl (hwithin hwork rfl
        (by rw [markInterrupted, taskAt?_modifyFlow, if_pos rfl])))
  | @settled _ id _ child _ ran hat _ _ hrun =>
      obtain ⟨task, hwork⟩ := hat.working
      obtain ⟨change, hchange⟩ := hat.taskAt?_settled hsound.wired hrun
      have hactive := (foldChild_others ran id child).1.trans (runChild_others hrun).1
      exact .inr (.inl (hwithin hwork hactive hchange))
  | dropped hat =>
      obtain ⟨task, hwork⟩ := hat.working
      exact .inr (.inl (hwithin hwork rfl
        (by rw [dropChild, taskAt?_modifyFlow, if_pos rfl, taskAt?_closeScope])))
  | skipped hat | unopened hat =>
      obtain ⟨task, hwork⟩ := hat.working
      exact .inr (.inl (hwithin hwork rfl (by rw [taskAt?_passOver, if_pos rfl])))
  | opened hat =>
      obtain ⟨task, hwork⟩ := hat.working
      have hid := taskAt?_lt hwork.here
      have hold : _ ≠ s.nextTask := TaskId.ne_of_lt hid
      exact .inr (.inl (hwithin hwork (by simp)
        (by rw [taskAt?_openChild s hid, if_neg hold, if_pos rfl])))
  | passOpened hat =>
      obtain ⟨task, hwork⟩ := hat.working
      exact .inr (.inl (hwithin hwork rfl
        (by rw [openPass, taskAt?_modifyFlow, if_pos rfl, taskAt?_openScope])))
  | passEnded hat =>
      obtain ⟨task, hwork⟩ := hat.working
      exact .inr (.inl (hwithin hwork rfl
        (by rw [endPass, taskAt?_modifyFlow, if_pos rfl, taskAt?_closeScope,
          taskAt?_modifyScope])))
  | published hat hstep => exact .inr (.inr ⟨_, _, _, _, _, _, hat, hstep, rfl, rfl⟩)
  | unpublished hat =>
      obtain ⟨task, hwork⟩ := hat.working
      exact .inr (.inl (hwithin hwork rfl
        (by rw [concluded, if_pos rfl, taskAt?_modifyFlow, if_pos rfl])))

/-- After a turn that ends a pull the session rests, and so it does after a redirect. -/
theorem Turned.resting {s s' : Session} {result : Except Error Turn}
    (hturned : s.Turned result s') (hsound : s.Sound)
    (hbefore : s.redirectedTo.isSome = true → s.Resting) :
    (s'.redirectedTo.isSome = true → s'.Resting) ∧ (result ≠ .ok .again → s'.Resting) := by
  rcases hturned.rests hsound with ⟨rfl, hstays⟩ | hrest | ⟨scope, id, flow, step, mark, value, hat,
    -, rfl, rfl⟩
  · exact ⟨hbefore, fun hagain => (hstays hagain).elim hbefore fun hrest => hrest⟩
  · exact ⟨fun _ => hrest, fun _ => hrest⟩
  · refine ⟨fun hredirected => ?_, fun hagain => absurd rfl hagain⟩
    obtain ⟨task, hwork⟩ := hat.working
    have hsame : (s.published id mark value).redirectedTo = s.redirectedTo :=
      (concluded_others s id mark).2.2.2.1
    rw [hsame, hwork.running] at hredirected
    cases hredirected

/-- An act leaves a session at rest that was. -/
theorem Act.resting {s s' : Session} {id : TaskId} (hact : Act id s s') (hsound : s.Sound)
    (hrest : s.Resting) : s'.Resting := by
  have hgrows := hact.grows
  rcases hact.quiet_or_returned with hquiet | ⟨task, entry, target, -, -, htarget, rfl⟩
  · intro scope innermost hhead hbound
    rw [hquiet.active] at hhead
    obtain ⟨id', outer, -, hnested, hbound'⟩ := hsound.head hhead
    have hsame := hgrows.scope_flow hbound'
    rw [hbound] at hsame
    cases hsame
    obtain ⟨found, hfound, hisFlow⟩ := hnested.isFlow hsound.wired
    obtain ⟨task, htask, hopen⟩ := hrest scope innermost hhead hbound'
    rw [hfound] at htask
    cases htask
    exact ⟨found, hquiet.flows hfound hisFlow, hopen⟩
  · rcases hsound.nested with hempty | ⟨innermost, hnested⟩
    · rw [hempty] at htarget
      cases htarget
    · obtain ⟨-, outer, hsuffix, hflow⟩ := hnested.of_returnTarget? hsound.wired htarget
      have hrestored := restored hsound.wired hsound.active hnested hsuffix hflow
      have hbound := hflow.flow_scope hsound.wired
      obtain ⟨inner, hlist⟩ := hnested.eq_cons hsound.wired
      have hinnermost : ∃ task, s.taskAt? innermost = some task ∧ task.complete = false := by
        rw [hlist] at hnested
        refine hrest (s.scopeOf innermost) innermost ?_ (hnested.flow_scope hsound.wired)
        rw [Cursor.head?_eq hsound.active, hlist]
        rfl
      obtain ⟨found, hfound, hopen⟩ := hnested.incomplete hsound.wired hinnermost hsuffix hbound
      obtain ⟨pass, htasks, -⟩ := hrestored.flow
      have hhead : (s.restore target entry).active.head? = some target := by
        rw [Cursor.head?_eq hrestored.valid, hrestored.active]
        rfl
      have hfound' : (s.restore target entry).taskAt? entry.flow =
          some (found.mapFlow (·.returnTo entry.mark pass)) := by
        rw [htasks, if_pos rfl, hfound]
        rfl
      apply resting_of_open hhead (hgrows.scope_flow hbound) hfound'
      rw [(Task.mapFlow_others _ found).2.2.2]
      exact hopen

theorem Acts.resting {s s' : Session} {id : TaskId} (hacts : Acts id s s') (hsound : s.Sound)
    (hrest : s.Resting) : s'.Resting := by
  induction hacts with
  | refl => exact hrest
  | tail hbefore hact ih => exact hact.resting (Moves.sound (Acts.moves hbefore) hsound) ih

/-- A session that rests is sound after the turns of a pull, and does not stop at a complete flow
once it is redirected. -/
theorem Turns.resting {count : Nat} {s s' : Session} (hturns : Turns count s s')
    (hsound : s.Sound) (hbefore : s.redirectedTo.isSome = true → s.Resting) :
    s'.Sound ∧ (s'.redirectedTo.isSome = true → s'.Resting) := by
  induction hturns with
  | refl => exact ⟨hsound, hbefore⟩
  | turn hturn _ ih =>
      have hturned := turned hturn
      exact ih (hturned.sound hsound) (hturned.resting hsound hbefore).1

theorem Alike.resting {s s' : Session} (halike : Alike s s') (hrest : s.Resting) :
    s'.Resting := by
  intro scope id hhead hbound
  rw [halike.active] at hhead
  rw [scope_eq, scopeAt?, halike.scopes, ← scopeAt?, ← scope_eq] at hbound
  rw [taskAt?, halike.tasks]
  exact hrest scope id hhead hbound

/-- An operation leaves a session at rest that was. -/
theorem Step.resting {s s' : Session} (hstep : Step s s') (hsound : s.Sound)
    (hrest : s.Resting) : s'.Resting := by
  cases hstep with
  | pulled hpull hanswer =>
      obtain ⟨count, r, result, hturns, hlast, hfound⟩ := exists_last_turn hpull hanswer
      obtain ⟨hsound', hbefore⟩ := hturns.resting hsound fun _ => hrest
      apply ((turned hlast).resting hsound' hbefore).2
      rintro rfl
      cases hfound
  | filledIn id field value => exact (fillIn_acts s id field value).resting hsound hrest
  | clicked id component => exact (click_acts s id component).resting hsound hrest
  | answered id value => exact (answer_acts s id value).resting hsound hrest
  | breakpointSet name => exact hrest

theorem Run.resting {s s' : Session} (hrun : Run s s') (hsound : s.Sound) (hrest : s.Resting) :
    s'.Resting := by
  induction hrun with
  | refl => exact hrest
  | tail hbefore hstep ih => exact hstep.resting (Run.sound hbefore hsound) ih

theorem initial_resting (document : Document) (settings : SessionSettings) (ownsEvents : Bool)
    (flowSettings : FlowSettings) :
    (initial document settings ownsEvents flowSettings).Resting :=
  resting_of_open rfl rfl rfl rfl

theorem Reachable.resting {s : Session} (hreach : s.Reachable) : s.Resting := by
  obtain ⟨document, settings, ownsEvents, start, hstart, hrun⟩ := hreach
  obtain ⟨declared, -, rfl⟩ := start_eq hstart
  exact hrun.resting (initial_sound document settings ownsEvents declared.settings)
    (initial_resting document settings ownsEvents declared.settings)

end Session

end Workflow
