import Workflow.Proofs.Session.Release

/-!
# Which flow a request to go back reaches

A request to go back is handled if the task that asks belongs to the innermost flow and the flow of
the newest record is being run, `goBack_resolved`.  The walk from the innermost flow to that of
the record follows the owners of flows, and the scopes are taken from the call stack; that both lead
to the same flow is what `Session.Nested` says.

Going back is described in full, `Session.WentBack`: which scopes are closed, which flow is returned
and to where, and that nothing else changes.  Flows are told apart by their tasks and not by their
names.  A flow can only be returned by a request from itself or from a flow that runs inside it.
-/

namespace Workflow.Session

/-- The flow runs inside another one: it was opened by that one, or by a flow that runs inside. -/
def Inside (s : Session) : TaskId → TaskId → Prop :=
  Relation.TransGen fun inner outer => s.ownerOf inner = some outer

/-- A flow of the task is being run. -/
def OnStack (s : Session) (id : TaskId) : Prop :=
  ∃ own ∈ s.active.toList, (s.scope own).flow = some id

section

variable {s s' : Session} {id owner : TaskId} {scopes : List ScopeId}

theorem Nested.ownerOf_child (hwired : s.Wired) {task inner : Task} {flow : Flow} {child : Child}
    (htask : s.taskAt? id = some task) (hflow : task.flow? = some flow)
    (hcurrent : flow.current = some child) (hinner : s.taskAt? child.task = some inner) :
    s.ownerOf child.task = some id := by
  have hplaces := hwired.child_places (flowAt?_eq_some_iff.mpr ⟨task, htask, hflow⟩) hcurrent hinner
  rw [ownerOf_eq_of_taskAt? hinner, hplaces.2.1]

/-- The walk along the owners finds every flow on the chain. -/
theorem Nested.exists_returnTarget? (hnested : s.Nested id scopes) (hwired : s.Wired)
    (howner : ∃ own ∈ scopes, (s.scope own).flow = some owner) :
    ∃ target, s.returnTarget? owner (some id) scopes = some target := by
  induction hnested with
  | root =>
      obtain ⟨own, hmem, hbound⟩ := howner
      rw [List.mem_singleton] at hmem
      subst hmem
      obtain ⟨task, htask, hflow, -⟩ := hwired.rooted
      have hself : (s.scope s.rootScope).flow = some s.root := by
        rw [rootScope, scopeOf_eq_of_taskAt? htask]
        exact hwired.flow_scope htask hflow
      have hroot : s.root = owner := Option.some.inj (hself.symm.trans hbound)
      refine ⟨s.rootScope, ?_⟩
      rw [returnTarget?, hself]
      dsimp only
      rw [if_neg (not_not.mpr rfl), if_pos hroot]
  | @child id scopes task flow child inner houter htask hopen hflow hcurrent hinner hisFlow ih =>
      have hchild := Nested.child houter htask hopen hflow hcurrent hinner hisFlow
      have hself := hchild.flow_scope hwired
      rw [returnTarget?, hself]
      dsimp only
      rw [if_neg (not_not.mpr rfl)]
      by_cases hfound : child.task = owner
      · exact ⟨child.scope, if_pos hfound⟩
      · rw [if_neg hfound, Nested.ownerOf_child hwired htask hflow hcurrent hinner]
        apply ih
        obtain ⟨own, hmem, hbound⟩ := howner
        rcases List.mem_cons.mp hmem with rfl | hmem
        · exact absurd (Option.some.inj (hself.symm.trans hbound)) hfound
        · exact ⟨own, hmem, hbound⟩

/-- A flow on the chain is the innermost one, or the innermost one runs inside it. -/
theorem Nested.inside (hnested : s.Nested id scopes) (hwired : s.Wired)
    (howner : ∃ own ∈ scopes, (s.scope own).flow = some owner) :
    owner = id ∨ s.Inside id owner := by
  induction hnested with
  | root =>
      obtain ⟨own, hmem, hbound⟩ := howner
      rw [List.mem_singleton] at hmem
      subst hmem
      have hself := (Nested.root (s := s)).flow_scope hwired
      exact .inl (Option.some.inj (hbound.symm.trans hself))
  | @child id scopes task flow child inner houter htask hopen hflow hcurrent hinner hisFlow ih =>
      have hchild := Nested.child houter htask hopen hflow hcurrent hinner hisFlow
      have hself := hchild.flow_scope hwired
      have hstep := Nested.ownerOf_child hwired htask hflow hcurrent hinner
      obtain ⟨own, hmem, hbound⟩ := howner
      rcases List.mem_cons.mp hmem with rfl | hmem
      · exact .inl (Option.some.inj (hbound.symm.trans hself))
      · rcases ih ⟨own, hmem, hbound⟩ with rfl | hinside
        · exact .inr (.single hstep)
        · exact .inr (.head hstep hinside)

/-- A record is gone back to at the request of the innermost flow, if its flow is being run. -/
theorem Sound.exists_returnTarget?_iff (hsound : s.Sound) {requester : Option TaskId} :
    (∃ target, s.returnTarget? owner requester s.active.toList = some target) ↔
      (∃ head innermost, s.active.head? = some head ∧ (s.scope head).flow = some innermost ∧
        requester = some innermost) ∧ s.OnStack owner := by
  rcases hsound.nested with hempty | ⟨innermost, hnested⟩
  · constructor
    · rintro ⟨target, htarget⟩
      rw [hempty] at htarget
      cases htarget
    · rintro ⟨-, own, hmem, -⟩
      rw [hempty] at hmem
      cases hmem
  · obtain ⟨outer, hlist⟩ := hnested.eq_cons hsound.wired
    have hhead : s.active.head? = some (s.scopeOf innermost) := by
      rw [Cursor.head?_eq hsound.active, hlist]
      rfl
    have hbound : (s.scope (s.scopeOf innermost)).flow = some innermost := by
      rw [hlist] at hnested
      exact hnested.flow_scope hsound.wired
    constructor
    · rintro ⟨target, htarget⟩
      obtain ⟨hrequester, rest, hsuffix, hflow⟩ := hnested.of_returnTarget? hsound.wired htarget
      refine ⟨⟨_, innermost, hhead, hbound, hrequester⟩, target, ?_, hflow.flow_scope hsound.wired⟩
      exact hsuffix.mem List.mem_cons_self
    · rintro ⟨⟨head, id, hhead', hbound', rfl⟩, howner⟩
      rw [hhead] at hhead'
      cases hhead'
      rw [hbound] at hbound'
      cases hbound'
      exact hnested.exists_returnTarget? hsound.wired howner

end

/-! ## Going back in full -/

/-- A session has gone back to a record at the request of a task. -/
structure WentBack (s s' : Session) (task : Task) (entry : Visit) : Prop where
  /-- The scopes above that of the flow of the record are popped; what their flows hold, and what
  that flow has open inside, is closed; and its scope has the trees of the record. -/
  unwound : ∃ above target outer, s.active.toList = above ++ target :: outer ∧
    (s.scope target).flow = some entry.flow ∧ s'.active.toList = target :: outer ∧
    ∀ scope found, s.scopeAt? scope = some found → s'.scopeAt? scope =
      if scope = target then some (found.reopen entry.state entry.result)
      else if scope ∈ above.flatMap s.heldBy ++ s.insideOf entry.flow then
        some (found.release (scope == s.rootScope))
      else some found
  /-- A pass of the record is opened again in a new scope; nothing else is opened. -/
  passed : s'.scopes.size = s.scopes.size + entry.pass.toList.length ∧
    ∀ trees, entry.pass = some trees → ∃ pass, s'.scopeAt? s.nextScope = some pass ∧
      pass.released = false ∧ pass.parent = some (s.scopeOf entry.flow) ∧ pass.state = trees.1 ∧
      pass.result = Value.empty.merge trees.2
  /-- The flow of the record is back where it stood, and no other task changes. -/
  returned : (∃ flow, s.flowAt? entry.flow = some flow ∧ s'.flowAt? entry.flow =
    some (flow.returnTo entry.mark (entry.pass.map fun _ => s.nextScope))) ∧
    ∀ other, other ≠ entry.flow → s'.taskAt? other = s.taskAt? other
  /-- The record is forgotten, and it was the newest one. -/
  forgotten : s.history.toList = entry :: s'.history.toList
  /-- One event tells that the request was handled. -/
  announced : s'.events = s.events.push (.backAsked task.name true)
  others : s'.repository = s.repository ∧ s'.settings = s.settings ∧ s'.root = s.root ∧
    s'.redirectedTo = s.redirectedTo

section

variable {s s' : Session}

theorem scopes_size_restore (s : Session) (target : ScopeId) (entry : Visit) :
    (s.restore target entry).scopes.size = s.scopes.size + entry.pass.toList.length := by
  have hsize := (reopened_others s target entry).2.2.2.2.2.2.2.2
  have hsame : (s.restore target entry).scopes.size =
      ((s.reopened target entry).reopenPass target entry.pass).2.scopes.size := rfl
  rw [hsame, reopenPass.eq_def]
  cases entry.pass with
  | none => exact hsize
  | some trees => simp [hsize]

/-- Going back to a record on the call stack is what it should be. -/
theorem Sound.wentBack (hsound : s.Sound) {task : Task} {entry : Visit} {target : ScopeId}
    (hentry : s.history.head? = some entry)
    (htarget : s.returnTarget? entry.flow task.owner s.active.toList = some target) :
    WentBack s ((s.restore target entry).emit (.backAsked task.name true)) task entry := by
  rcases hsound.nested with hempty | ⟨innermost, hnested⟩
  · rw [hempty] at htarget
    cases htarget
  · obtain ⟨-, outer, ⟨above, hlist⟩, hflow⟩ := hnested.of_returnTarget? hsound.wired htarget
    have hrestored := restored hsound.wired hsound.active hnested
      (hlist ▸ List.suffix_append above _) hflow
    have hothers := restore_others s target entry
    obtain ⟨inner, hinner, hisFlow⟩ := hflow.isFlow hsound.wired
    obtain ⟨flow, hruns⟩ := Option.isSome_iff_exists.mp hisFlow
    have hbefore : s.flowAt? entry.flow = some flow :=
      flowAt?_eq_some_iff.mpr ⟨inner, hinner, hruns⟩
    have hnot : target ∉ above := by
      rw [← hlist] at hnested
      exact hnested.notMem_above hsound.wired
    refine ⟨⟨above, target, outer, hlist.symm, hflow.flow_scope hsound.wired, hrestored.active,
      fun scope found hfound => ?_⟩, ⟨scopes_size_restore s target entry, fun trees htrees => ?_⟩,
      ⟨⟨flow, hbefore, ?_⟩, fun other hother => ?_⟩, ?_, ?_, hothers.1, hothers.2.1, hothers.2.2.1,
      hothers.2.2.2.2.2.1⟩
    · rw [scopeAt?_emit]
      by_cases hself : target = scope
      · subst hself
        rw [hrestored.trees, hfound, if_pos rfl]
        rfl
      · rw [if_neg (Ne.symm hself), scopeAt?_restore_of_lt s target entry (scopeAt?_lt hfound),
          scopeAt?_reopened hlist.symm hnot entry scope hself, scopeAt?_closeAll, hfound, closedBy]
        rfl
    · refine ⟨_, scopeAt?_restore_pass s target htrees, rfl, ?_, rfl, rfl⟩
      rw [hflow.scopeOf_eq hsound.wired]
      rfl
    · rw [flowAt?_emit, flowAt?_restore, if_pos rfl, hbefore, passBack_eq]
      rfl
    · rw [taskAt?_emit, taskAt?_restore, if_neg (Ne.symm hother)]
    · have hpopped : ((s.restore target entry).emit (.backAsked task.name true)).history =
          s.history.pop := hothers.2.2.2.2.1
      rw [hpopped, Cursor.toList_pop hsound.history]
      rw [Cursor.head?_eq hsound.history] at hentry
      obtain ⟨rest, hrest⟩ := List.head?_eq_some_iff.mp hentry
      rw [hrest]
      rfl
    · rw [(emit_others _ _).2.2.2.2.2.2.2.2, hothers.2.2.2.2.2.2.1]

/-- The flow that declared the task is the innermost one being run. -/
def FromInnermost (s : Session) (task : Task) : Prop :=
  ∃ head innermost, s.active.head? = some head ∧ (s.scope head).flow = some innermost ∧
    task.owner = some innermost

/-- Either a request finds the flow to return, or it is refused. -/
theorem goBack_cases {id : TaskId} {task : Task} (htask : s.taskAt? id = some task) :
    (∃ entry target, s.history.head? = some entry ∧
        s.returnTarget? entry.flow task.owner s.active.toList = some target ∧
        s.goBack id = (.ok true, (s.restore target entry).emit (.backAsked task.name true))) ∨
      (∀ entry, s.history.head? = some entry →
        s.returnTarget? entry.flow task.owner s.active.toList = none) ∧
        s.goBack id = (.ok false, s.emit (.backAsked task.name false)) := by
  unfold goBack
  rw [task_eq_ok_iff.mpr htask]
  dsimp only
  cases hentry : s.history.head? with
  | none => exact .inr ⟨fun _ hnone => (nomatch hnone), rfl⟩
  | some entry =>
      cases htarget : s.returnTarget? entry.flow task.owner s.active.toList with
      | none =>
          rw [Option.bind_some, htarget]
          refine .inr ⟨fun other hother => ?_, rfl⟩
          cases hother
          exact htarget
      | some target =>
          rw [Option.bind_some, htarget]
          exact .inl ⟨entry, target, rfl, htarget, rfl⟩

/-- A request comes back to the innermost flow or to one that it runs inside. -/
theorem Sound.entry_of_handled (hsound : s.Sound) {task : Task} {owner target : TaskId}
    (hrequest : s.FromInnermost task) (howner : task.owner = some owner)
    (hrunning : s.OnStack target) : target = owner ∨ s.Inside owner target := by
  obtain ⟨head, innermost, hhead, hbound, hrequester⟩ := hrequest
  rw [howner] at hrequester
  cases hrequester
  rcases hsound.nested with hempty | ⟨id, hnested⟩
  · rw [Cursor.head?_eq hsound.active, hempty] at hhead
    cases hhead
  · have hself : id = owner := by
      obtain ⟨outer, hlist⟩ := hnested.eq_cons hsound.wired
      rw [Cursor.head?_eq hsound.active, hlist] at hhead
      cases hhead
      rw [hlist] at hnested
      exact Option.some.inj ((hnested.flow_scope hsound.wired).symm.trans hbound)
    subst hself
    exact hnested.inside hsound.wired hrunning

/-- A request to go back is handled if and only if it comes from the innermost flow and the flow of
the newest record is being run. If it is handled, that flow is returned and nothing else changes;
if not, nothing changes. A flow other than the one that asks is returned only if the one that asks
runs inside it, whatever their names. -/
theorem goBack_resolved {r s : Session} {id : TaskId} {task : Task} (hdriven : r.Driven)
    (hacts : Acts id r s) (htask : s.taskAt? id = some task) :
    ((s.goBack id).1 = .ok true ↔ s.FromInnermost task ∧
        ∃ entry, s.history.head? = some entry ∧ s.OnStack entry.flow) ∧
      ((s.goBack id).1 = .ok true → ∃ entry, s.history.head? = some entry ∧
        WentBack s (s.goBack id).2 task entry) ∧
      ((s.goBack id).1 ≠ .ok true →
        s.goBack id = (.ok false, s.emit (.backAsked task.name false))) ∧
      ∀ owner other, task.owner = some owner → other ≠ owner → ¬ s.Inside owner other →
        (s.goBack id).2.taskAt? other = s.taskAt? other ∧
          ∀ entry, s.history.head? = some entry → (s.goBack id).1 = .ok true →
            entry.flow ≠ other := by
  have hsound := Moves.sound hacts.moves hdriven.accounted.1.sound
  rcases goBack_cases htask with ⟨entry, target, hentry, htarget, hback⟩ | ⟨hnone, hback⟩
  · have hfound := hsound.exists_returnTarget?_iff.mp ⟨target, htarget⟩
    have hwent : WentBack s (s.goBack id).2 task entry := by
      rw [hback]
      exact hsound.wentBack hentry htarget
    refine ⟨?_, ?_, ?_, ?_⟩
    · rw [hback]
      exact ⟨fun _ => ⟨hfound.1, entry, hentry, hfound.2⟩, fun _ => rfl⟩
    · exact fun _ => ⟨entry, hentry, hwent⟩
    · intro hrefused
      rw [hback] at hrefused
      exact absurd rfl hrefused
    · intro owner other howner hother houtside
      have hne : entry.flow ≠ other := by
        intro hsame
        rcases hsound.entry_of_handled hfound.1 howner hfound.2 with hself | hinside
        · exact hother (hsame.symm.trans hself)
        · exact houtside (hsame ▸ hinside)
      refine ⟨hwent.returned.2 other (Ne.symm hne), fun newest hnewest _ => ?_⟩
      rw [hentry] at hnewest
      cases hnewest
      exact hne
  · refine ⟨?_, ?_, fun _ => hback, ?_⟩
    · rw [hback]
      constructor
      · intro hhandled
        cases hhandled
      · rintro ⟨hrequest, entry, hentry, hrunning⟩
        obtain ⟨target, htarget⟩ := hsound.exists_returnTarget?_iff.mpr ⟨hrequest, hrunning⟩
        rw [hnone entry hentry] at htarget
        cases htarget
    · intro hhandled
      rw [hback] at hhandled
      cases hhandled
    · intro owner other _ _ _
      rw [hback]
      exact ⟨rfl, fun entry _ hhandled => by cases hhandled⟩

end

/-! ## A flow that runs itself -/

/-- A button that asks for an action, and is named for it. -/
def actionButton (action : String) : String × ComponentDecl :=
  (action, { preconditions := [], validators := [], destination := none,
             widget := .button action none action .null [] })

/-- A screen with a button that leaves it and a button that goes back. -/
def twoWayScreen (name : String) : TaskDecl :=
  { name, preconditions := []
    action := .screen [["next", "back"].map fun component =>
      { component, destination := none, preconditions := none }] }

/-- A document whose flow shows a screen and then runs itself. -/
def spiralDocument : Document where
  repository :=
    { components := [actionButton "next", actionButton "back"]
      validators := []
      flows := [
        ("step", { tasks := [
                     twoWayScreen "ask",
                     { name := "step", preconditions := [], action := .flow .once none }],
                   settings := {} })] }
  startingFlow := "step"
  context := .object []
  hash := none

/-- The session of `spiralDocument` that shows the screen of the inner flow. -/
def innerStep : Session :=
  ((initial spiralDocument {} true {}).pull.2.click ⟨1⟩ "next").2.pull.2

theorem innerStep_driven : innerStep.Driven :=
  Reachable.driven (reachable_carryOut [.pull, .click ⟨1⟩ "next", .pull] (by decide +kernel) rfl
    (by decide +kernel))

/-- From the screen of the inner flow the outer one is returned; from that of the outer flow the
request is refused. -/
theorem innerStep_back :
    (∃ task entry, innerStep.taskAt? ⟨3⟩ = some task ∧ entry.flow = ⟨0⟩ ∧
        WentBack innerStep (innerStep.goBack ⟨3⟩).2 task entry) ∧
      innerStep.goBack ⟨1⟩ = (.ok false, innerStep.emit (.backAsked "ask" false)) := by
  have hentry : innerStep.history.head?.map Visit.flow = some ⟨0⟩ := by decide +kernel
  have hask := Option.eq_some_of_isSome
    (show (innerStep.taskAt? ⟨1⟩).isSome by decide +kernel)
  have hinner := Option.eq_some_of_isSome
    (show (innerStep.taskAt? ⟨3⟩).isSome by decide +kernel)
  constructor
  · obtain ⟨-, hhandled, -⟩ := goBack_resolved innerStep_driven .refl hinner
    obtain ⟨entry, hhead, hwent⟩ := hhandled (by decide +kernel)
    rw [hhead] at hentry
    exact ⟨_, entry, hinner, Option.some.inj hentry, hwent⟩
  · obtain ⟨-, -, hrefused, -⟩ := goBack_resolved innerStep_driven .refl hask
    have hname : ((innerStep.taskAt? ⟨1⟩).get (by decide +kernel)).name = "ask" := by
      decide +kernel
    rw [← hname]
    exact hrefused (by decide +kernel)

/-- Of two flows of one name, one may return the other: the inner one returns the outer one. -/
theorem innerStep_returns_outer :
    ¬ ∀ s : Session, s.Driven → ∀ id task owner other flow flow', s.taskAt? id = some task →
      task.owner = some owner → other ≠ owner → s.flowAt? owner = some flow →
      s.flowAt? other = some flow' → flow.definition = flow'.definition →
      (s.goBack id).2.flowAt? other = some flow' := by
  intro hnever
  have hsame := hnever innerStep innerStep_driven ⟨3⟩ _ ⟨2⟩ ⟨0⟩ _ _
    (Option.eq_some_of_isSome (show (innerStep.taskAt? ⟨3⟩).isSome by decide +kernel))
    (by decide +kernel) (by decide +kernel)
    (Option.eq_some_of_isSome (show (innerStep.flowAt? ⟨2⟩).isSome by decide +kernel))
    (Option.eq_some_of_isSome (show (innerStep.flowAt? ⟨0⟩).isSome by decide +kernel))
    (by decide +kernel)
  revert hsame
  decide +kernel

end Workflow.Session
