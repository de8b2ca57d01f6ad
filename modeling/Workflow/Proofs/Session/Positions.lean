import Workflow.Proofs.Session.History

/-!
# Where flows stand

A running flow stands at a place of its declared tasks, or behind the last of them; its child was
declared at one of these places, and only a loop has a pass open, `Flow.Placed`.  A record of the
history says the same of its flow for the time at which the flow is to be returned to it.  In every
session all flows and all records are placed, `Session.Placed`, so that a flow never looks for a
task where none was declared, nor for the declaration of a flow that there is not.
-/

namespace Workflow

/-- The flow stands among its declared tasks, and so does its child. -/
structure Flow.Placed (flow : Flow) (tasks : List TaskDecl) : Prop where
  cursor : flow.cursor ≤ tasks.length
  child : ∀ child, flow.current = some child → child.place < tasks.length
  pass : flow.pass.isSome = true → flow.isLoop = true

/-- A flow that can go back to the record stands among its declared tasks when it has. -/
structure Visit.Placed (visit : Visit) (flow : Flow) (tasks : List TaskDecl) : Prop where
  cursor : visit.mark.cursor < tasks.length
  pass : visit.pass.isSome = true → flow.isLoop = true

theorem Flow.isLoop_of_skeleton {flow other : Flow} (h : flow.skeleton = other.skeleton) :
    flow.isLoop = other.isLoop := by
  rw [isLoop, isLoop, (Flow.of_skeleton h).2.1]

/-- Only a loop without a pass begins one. -/
theorem Flow.of_nextPass {flow : Flow} {tasks : List TaskDecl}
    (hnext : flow.nextStep tasks = .nextPass) : flow.isLoop = true ∧ flow.pass = none := by
  unfold nextStep at hnext
  cases hloop : flow.isLoop <;> cases hpass : flow.pass <;> cases hbroke : flow.broke <;>
    cases hdecl : tasks[flow.cursor]? <;> simp_all

/-- Only a flow that is no loop publishes at its end. -/
theorem Flow.isLoop_of_publish {flow : Flow} {tasks : List TaskDecl}
    (hnext : flow.nextStep tasks = .publish) : flow.isLoop = false := by
  unfold nextStep at hnext
  cases hloop : flow.isLoop <;> cases hpass : flow.pass <;> cases hbroke : flow.broke <;>
    cases hdecl : tasks[flow.cursor]? <;> simp_all

namespace Session

/-- The flow was declared with the given tasks. -/
def Declares (s : Session) (flow : Flow) (tasks : List TaskDecl) : Prop :=
  ∃ declared, Keyed.get? flow.definition s.repository.flows = some declared ∧
    declared.tasks = tasks

/-- All flows stand among their declared tasks. -/
def FlowsPlaced (s : Session) : Prop :=
  ∀ ⦃id flow⦄, s.flowAt? id = some flow → ∃ tasks, s.Declares flow tasks ∧ flow.Placed tasks

/-- All flows and all records are placed. -/
structure Placed (s : Session) : Prop where
  flows : s.FlowsPlaced
  visits : ∀ visit ∈ s.history.toList, ∃ flow tasks, s.flowAt? visit.flow = some flow ∧
    s.Declares flow tasks ∧ visit.Placed flow tasks

variable {s s' : Session}

theorem Declares.unique {flow : Flow} {tasks tasks' : List TaskDecl}
    (hdeclares : s.Declares flow tasks) (hdeclares' : s.Declares flow tasks') : tasks = tasks' := by
  obtain ⟨declared, hdeclared, rfl⟩ := hdeclares
  obtain ⟨declared', hdeclared', rfl⟩ := hdeclares'
  rw [hdeclared] at hdeclared'
  rw [Option.some.inj hdeclared']

theorem Declares.of_skeleton {flow flow' : Flow} {tasks : List TaskDecl}
    (hdeclares : s.Declares flow tasks) (hskeleton : flow'.skeleton = flow.skeleton)
    (hrepository : s'.repository = s.repository) : s'.Declares flow' tasks := by
  rw [Declares, (Flow.of_skeleton hskeleton).1, hrepository]
  exact hdeclares

/-- A record stays placed as long as its flow stays the flow that it was opened as. -/
theorem Placed.visits_of_grows (hplaced : s.Placed) (hgrows : Grows s s') {visit : Visit}
    (hmem : visit ∈ s.history.toList) :
    ∃ flow tasks, s'.flowAt? visit.flow = some flow ∧ s'.Declares flow tasks ∧
      visit.Placed flow tasks := by
  obtain ⟨flow, tasks, hflow, hdeclares, hplace⟩ := hplaced.visits visit hmem
  obtain ⟨flow', hflow', hskeleton⟩ := hgrows.flowAt? hflow
  refine ⟨flow', tasks, hflow', hdeclares.of_skeleton hskeleton hgrows.repository, hplace.cursor,
    fun hpass => ?_⟩
  rw [Flow.isLoop_of_skeleton hskeleton]
  exact hplace.pass hpass

namespace FlowsPlaced

theorem of_same (hplaced : s.FlowsPlaced) (hflows : ∀ id, s'.flowAt? id = s.flowAt? id)
    (hrepository : s'.repository = s.repository) : s'.FlowsPlaced := by
  intro id flow hflow
  rw [hflows] at hflow
  obtain ⟨tasks, hdeclares, hplace⟩ := hplaced hflow
  exact ⟨tasks, hdeclares.of_skeleton rfl hrepository, hplace⟩

/-- Moving a flow to another place keeps all flows placed if it is a place for that flow. -/
theorem modifyFlow (hplaced : s.FlowsPlaced) (id : TaskId) {change : Flow → Flow}
    (hskeleton : ∀ flow, (change flow).skeleton = flow.skeleton)
    (hplace : ∀ flow tasks, s.flowAt? id = some flow → s.Declares flow tasks →
      flow.Placed tasks → (change flow).Placed tasks) : (s.modifyFlow id change).FlowsPlaced := by
  intro other flow hflow
  rw [flowAt?_modifyFlow] at hflow
  split_ifs at hflow with hself
  · subst hself
    obtain ⟨before, hbefore, rfl⟩ := Option.map_eq_some_iff.mp hflow
    obtain ⟨tasks, hdeclares, hold⟩ := hplaced hbefore
    exact ⟨tasks, hdeclares.of_skeleton (hskeleton before) rfl,
      hplace before tasks hbefore hdeclares hold⟩
  · exact hplaced hflow

/-- A flow that is opened as it was built stands at its first task. -/
theorem openTask (hplaced : s.FlowsPlaced) {task : Task}
    (hbuilt : ∀ flow, task.flow? = some flow → flow = flow.skeleton ∧
      ∃ tasks, s.Declares flow tasks) : (s.openTask task).FlowsPlaced := by
  intro id flow hflow
  rw [flowAt?_openTask] at hflow
  split_ifs at hflow
  · obtain ⟨hskeleton, tasks, hdeclares⟩ := hbuilt flow hflow
    refine ⟨tasks, hdeclares, ?_⟩
    rw [hskeleton]
    exact ⟨Nat.zero_le _, by simp [Flow.skeleton], by simp [Flow.skeleton]⟩
  · exact hplaced hflow

theorem concluded (hplaced : s.FlowsPlaced) (id : TaskId) (mark : Bool) :
    (s.concluded id mark).FlowsPlaced := by
  unfold Session.concluded
  split_ifs
  · exact hplaced.modifyFlow id (fun _ => rfl) fun _ _ _ _ h => ⟨h.cursor, h.child, h.pass⟩
  · exact hplaced

theorem runChild {id : TaskId} {child : Child} {task : Task} (hplaced : s.FlowsPlaced)
    (hrun : s.runChild id child task = (.ok (), s')) : s'.FlowsPlaced := by
  rcases runChild_cases hrun with ⟨rfl, -⟩ | ⟨ran, heffect, -, rfl⟩
  · exact hplaced
  · have hran : ran.FlowsPlaced := by
      cases heffect with
      | updated | announced => exact hplaced.of_same (fun _ => rfl) rfl
      | broken =>
          exact hplaced.modifyFlow _ (fun _ => rfl) fun _ _ _ _ h => ⟨h.cursor, h.child, h.pass⟩
    exact hran.of_same (flowAt?_complete ran child.task) rfl

theorem foldChild (hplaced : s.FlowsPlaced) (id : TaskId) (child : Child) :
    (s.foldChild id child).FlowsPlaced := by
  unfold Session.foldChild
  dsimp only
  refine modifyFlow ?_ id (fun _ => rfl) fun _ _ _ _ h => ⟨h.cursor, by simp, h.pass⟩
  split <;> exact hplaced.of_same (fun _ => rfl) rfl

end FlowsPlaced

/-- A flow that is at a step stands where it was declared to take it. -/
theorem AtStep.declares {scope : ScopeId} {id : TaskId} {flow found : Flow} {step : FlowStep}
    {tasks : List TaskDecl} (hat : s.AtStep scope id flow step) (hfound : s.flowAt? id = some found)
    (hdeclares : s.Declares found tasks) : found = flow ∧ flow.nextStep tasks = step := by
  obtain ⟨task, hwork⟩ := hat.working
  rw [hwork.flowAt?] at hfound
  cases hfound
  obtain ⟨declared, hdeclared, hnext⟩ := hat.next
  rw [hdeclares.unique ⟨declared, hdeclared, rfl⟩]
  exact ⟨rfl, hnext⟩

/-- A flow that is built is declared. -/
theorem declares_of_activity {decl : TaskDecl} {state : Value} {flow : Flow}
    (hactivity : s.repository.activity decl state = .ok (.flow flow)) :
    flow = flow.skeleton ∧ ∃ tasks, s.Declares flow tasks := by
  obtain ⟨repetition, settings, hstart⟩ := start_of_activity hactivity
  have hbuilt := Flow.start_eq hstart
  refine ⟨by rw [hbuilt]; rfl, ?_⟩
  have hname : flow.definition = decl.name := by rw [hbuilt]
  unfold Repository.activity at hactivity
  split at hactivity
  · obtain ⟨screen, -, hsort⟩ := exists_of_map_eq_ok hactivity
    cases hsort
  · obtain ⟨call, -, hsort⟩ := exists_of_map_eq_ok hactivity
    cases hsort
  · split at hactivity
    · next declared hdeclared => exact ⟨declared.tasks, declared, hname ▸ hdeclared, rfl⟩
    · cases hactivity
  all_goals cases hactivity

/-- A turn keeps flows placed. -/
theorem Turned.flowsPlaced {result : Except Error Turn} (hturned : s.Turned result s')
    (hplaced : s.FlowsPlaced) : s'.FlowsPlaced := by
  have hattempt : ∀ {scope id flow decl}, s.AtStep scope id flow (.openTask decl) →
      (s.attempt id flow).FlowsPlaced := by
    intro scope id flow decl hat
    have hmoved : (s.modifyFlow id fun flow =>
        { flow with cursor := flow.cursor + 1 }).FlowsPlaced := by
      refine hplaced.modifyFlow id (fun _ => rfl) fun found tasks hfound hdeclares h => ?_
      obtain ⟨rfl, hnext⟩ := hat.declares hfound hdeclares
      obtain ⟨-, -, hdecl⟩ := Flow.nextStep_eq_openTask_iff.mp hnext
      exact ⟨(List.getElem?_eq_some_iff.mp hdecl).1, h.child, h.pass⟩
    exact hmoved.of_same (fun _ => rfl) rfl
  cases hturned with
  | idle | stuck | waiting => exact hplaced
  | unbound | entered => exact hplaced.of_same (fun _ => rfl) rfl
  | left _ _ _ _ _ hleave =>
      unfold leave at hleave
      dsimp only at hleave
      split_ifs at hleave <;> cases hleave <;> exact hplaced.of_same (fun _ => rfl) rfl
  | interrupted =>
      refine hplaced.modifyFlow _ (fun _ => rfl) fun flow tasks _ _ h => ⟨h.cursor, ?_, h.pass⟩
      intro child hchild
      obtain ⟨before, hbefore, rfl⟩ := Option.map_eq_some_iff.mp hchild
      exact h.child before hbefore
  | settled _ _ _ hrun => exact (hplaced.runChild hrun).foldChild _ _
  | @dropped _ _ flow child _ _ hat =>
      obtain ⟨task, hwork⟩ := hat.working
      have hclosed : (s.closeScope child.scope).FlowsPlaced := hplaced.of_same (fun _ => rfl) rfl
      refine hclosed.modifyFlow _ (fun _ => rfl) fun found tasks hfound _ h => ?_
      rw [flowAt?_closeScope, hwork.flowAt?] at hfound
      cases hfound
      exact ⟨Nat.le_of_lt (h.child child hat.current), by simp, h.pass⟩
  | skipped hat | unopened hat => exact (hattempt hat).of_same (fun _ => rfl) rfl
  | @opened _ id flow decl activity hat hshows hactivity =>
      have hopened : ((s.attempt id flow).openTask
          (s.declaredTask id decl activity)).FlowsPlaced := by
        refine (hattempt hat).openTask fun nested hnested => ?_
        have hsort : activity = .flow nested := Task.flow?_eq_some_iff.mp hnested
        exact declares_of_activity (hsort ▸ hactivity)
      refine hopened.modifyFlow id (fun _ => rfl) fun found tasks hfound hdeclares h => ?_
      obtain ⟨task, hwork⟩ := hat.working
      have hold : id ≠ s.nextTask := TaskId.ne_of_lt (taskAt?_lt hwork.here)
      rw [flowAt?_openTask, nextTask_attempt, if_neg hold, flowAt?_attempt, if_pos rfl,
        hwork.flowAt?] at hfound
      cases hfound
      obtain ⟨-, hnext⟩ := hat.declares hwork.flowAt? (hdeclares.of_skeleton rfl rfl)
      obtain ⟨-, -, hdecl⟩ := Flow.nextStep_eq_openTask_iff.mp hnext
      refine ⟨h.cursor, fun child hchild => ?_, h.pass⟩
      cases hchild
      exact (List.getElem?_eq_some_iff.mp hdecl).1
  | @passOpened _ id flow hat =>
      have hopened : (s.openScope (flow.passStart (s.scope (s.scopeOf id)).state)
          (some (s.scopeOf id))).FlowsPlaced := hplaced.of_same (fun _ => rfl) rfl
      refine hopened.modifyFlow id (fun _ => rfl) fun found tasks hfound hdeclares h => ?_
      obtain ⟨rfl, hnext⟩ := hat.declares hfound (hdeclares.of_skeleton rfl rfl)
      exact ⟨Nat.zero_le _, h.child, fun _ => (Flow.of_nextPass hnext).1⟩
  | @passEnded _ id _ pass snapshot =>
      have hfolded : ((s.modifyScope (s.scopeOf id)
          (·.mergeState (s.scope pass).result)).closeScope pass).FlowsPlaced :=
        hplaced.of_same (fun _ => rfl) rfl
      exact hfolded.modifyFlow id (fun _ => rfl) fun _ _ _ _ h =>
        ⟨h.cursor, h.child, by simp [Flow.foldPass]⟩
  | @published _ id _ _ mark =>
      refine (hplaced.concluded id mark).of_same (fun other => ?_) rfl
      rw [Session.published, flowAt?_complete, flowAt?_modifyScope]
  | unpublished => exact hplaced.concluded _ true

/-- A turn keeps a session placed. -/
theorem Turned.placed {result : Except Error Turn} (hturned : s.Turned result s')
    (hplaced : s.Placed) : s'.Placed where
  flows := hturned.flowsPlaced hplaced.flows
  visits := by
    rw [hturned.cursors.1]
    exact fun visit hmem => hplaced.visits_of_grows hturned.grows hmem

/-- Going back keeps a session placed: the flow of the record is returned to where it stood. -/
theorem Placed.restore (hplaced : s.Placed) (hsound : s.Sound) {entry : Visit}
    (hentry : s.history.head? = some entry) (target : ScopeId) :
    (s.restore target entry).Placed where
  flows := by
    rw [Cursor.head?_eq hsound.history] at hentry
    obtain ⟨flow, tasks, hflow, hdeclares, hvisit⟩ :=
      hplaced.visits entry (List.mem_of_head? hentry)
    have hrepository := (restore_others s target entry).1
    intro id found hfound
    rw [flowAt?_restore] at hfound
    split_ifs at hfound with hself
    · subst hself
      rw [hflow] at hfound
      cases hfound
      refine ⟨tasks, hdeclares.of_skeleton rfl hrepository, Nat.le_of_lt hvisit.cursor,
        by simp [Flow.returnTo], fun hpass => hvisit.pass ?_⟩
      cases htrees : entry.pass with
      | some trees => rfl
      | none =>
          have hnone : s.passBack target entry = none := by
            simp [passBack, reopenPass, htrees]
          have hpass' : (s.passBack target entry).isSome = true := hpass
          rw [hnone] at hpass'
          cases hpass'
    · obtain ⟨tasks, hdeclares, hplace⟩ := hplaced.flows hfound
      exact ⟨tasks, hdeclares.of_skeleton rfl hrepository, hplace⟩
  visits := by
    rw [(restore_others s target entry).2.2.2.2.1, Cursor.toList_pop hsound.history]
    exact fun visit hmem => hplaced.visits_of_grows (grows_restore s target entry)
      (List.mem_of_mem_tail hmem)

/-- A record is made where its flow stands. -/
theorem Placed.remember (hplaced : s.Placed) (hsound : s.Sound) {id : TaskId} {flow : Flow}
    {entry : Visit} (hvisit : s.visitOf id = .ok (some (flow, entry))) :
    (s.remember flow entry).Placed where
  flows := hplaced.flows.of_same (fun _ => rfl) rfl
  visits := by
    have hpushed : (s.remember flow entry).history = s.history.push entry := rfl
    obtain ⟨task, owner, child, -, -, hflow, hcurrent, -, rfl⟩ := visitOf_eq_some hvisit
    intro visit hmem
    rw [hpushed, Cursor.toList_push hsound.history] at hmem
    rcases List.mem_cons.mp hmem with rfl | hmem
    · obtain ⟨tasks, hdeclares, hplace⟩ := hplaced.flows hflow
      refine ⟨flow, tasks, hflow, hdeclares, hplace.child child hcurrent, fun hpass => ?_⟩
      exact hplace.pass ((Option.isSome_map).symm.trans hpass)
    · exact hplaced.visits visit hmem

/-- An act keeps a session placed. -/
theorem Act.placed {id : TaskId} (hact : Act id s s') (hsound : s.Sound) (hplaced : s.Placed) :
    s'.Placed := by
  have hgrows := hact.grows
  have hquiet : Quiet id s s' → s'.history = s.history → s'.Placed := by
    intro hquiet hhistory
    refine ⟨hplaced.flows.of_same (hquiet.flowAt?_eq hgrows) hgrows.repository, ?_⟩
    rw [hhistory]
    exact fun visit hmem => hplaced.visits_of_grows hgrows hmem
  cases hact with
  | screenSet _ htask hscreen =>
      exact hquiet (quiet_modifyTask htask (Task.takesInput_of_screen hscreen) _) rfl
  | resultMerged _ htask hinput | patched _ htask hinput =>
      exact hquiet (quiet_modifyScope htask hinput _) rfl
  | completed htask hinput => exact hquiet (quiet_modifyTask htask hinput _) rfl
  | recorded hvisit => exact hplaced.remember hsound hvisit
  | refused => exact hquiet (.of_same rfl rfl rfl rfl rfl) rfl
  | @returned _ _ target _ hentry _ =>
      have hback := hplaced.restore hsound hentry target
      exact ⟨hback.flows.of_same (fun _ => rfl) rfl, hback.visits⟩

theorem Alike.placed (halike : Alike s s') (hplaced : s.Placed) : s'.Placed where
  flows := by
    refine hplaced.flows.of_same (fun id => ?_) halike.grows.repository
    rw [flowAt?, taskAt?, halike.tasks]
    rfl
  visits := by
    rw [halike.history]
    exact fun visit hmem => hplaced.visits_of_grows halike.grows hmem

theorem Move.placed (hmove : Move s s') (hsound : s.Sound) (hplaced : s.Placed) : s'.Placed := by
  cases hmove with
  | turn hturn => exact (turned hturn).placed hplaced
  | act hact => exact hact.placed hsound hplaced
  | breakpoint name => exact (alike_setBreakpoint s name).placed hplaced

/-- A session starts at the first task of its root flow. -/
theorem initial_placed {document : Document} {settings : SessionSettings} {ownsEvents : Bool}
    {declared : FlowDecl}
    (hdeclared : Keyed.get? document.startingFlow document.repository.flows = some declared) :
    (initial document settings ownsEvents declared.settings).Placed where
  flows := by
    intro id flow hflow
    obtain ⟨index⟩ := id
    cases index with
    | zero =>
        cases hflow
        exact ⟨declared.tasks, ⟨declared, hdeclared, rfl⟩, Nat.zero_le _, by simp, by simp⟩
    | succ index => cases hflow
  visits := by simp [initial]

end Session

end Workflow
