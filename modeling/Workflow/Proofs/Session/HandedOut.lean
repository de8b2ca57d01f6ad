import Workflow.Proofs.Session.Moments
import Workflow.Proofs.Session.Transparency

/-!
# What is handed out is open

A task is handed out because it waits for input, and then it is not complete, or because of a
breakpoint with its name.  A breakpoint that is there when its task is opened hands the task out in
the very next turn, before it runs.  So a complete task is handed out only if its breakpoint was set
late, when the task had been opened already, `Session.SetLate`: a turn looks at breakpoints before
it looks at completion.  It happens once to a task, for it is marked then and never loses the mark,
`Session.Spent`.
-/

namespace Workflow.Session

/-- The flow has the child open. -/
def HasChild (s : Session) (owner : TaskId) (child : Child) : Prop :=
  ∃ flow, s.flowAt? owner = some flow ∧ flow.current = some child

/-- No flow has a child open that it did not have before. -/
def OpensNone (s s' : Session) : Prop :=
  ∀ ⦃owner child⦄, s'.HasChild owner child → s.HasChild owner child

/-- Where the open child of a flow comes from when a turn has been taken: it was open before, it has
been marked for its breakpoint, or it has been opened. -/
inductive Attended (s s' : Session) (owner : TaskId) : Except Error Turn → Child → Prop
  | kept {result : Except Error Turn} {child : Child} (hbefore : s.HasChild owner child) :
      Attended s s' owner result child
  | marked {child : Child} (hbefore : s.HasChild owner child) :
      Attended s s' owner (.ok (.handOut child.task)) { child with interrupted := true }
  | opened {scope : ScopeId} {flow : Flow} {decl : TaskDecl} {activity : Activity}
      (hat : s.AtStep scope owner flow (.openTask decl))
      (hafter : s' = s.openChild owner flow decl activity) :
      Attended s s' owner (.ok .again) (s.nextChild flow)

section

variable {s s' : Session} {owner : TaskId} {child : Child}

/-! ## The children of flows -/

theorem OpensNone.of_flows (hflows : ∀ id, s'.flowAt? id = s.flowAt? id) : OpensNone s s' := by
  rintro owner child ⟨flow, hflow, hcurrent⟩
  rw [hflows] at hflow
  exact ⟨flow, hflow, hcurrent⟩

theorem OpensNone.trans {r : Session} (hfirst : OpensNone s r) (hsecond : OpensNone r s') :
    OpensNone s s' :=
  fun _ _ hchild => hfirst (hsecond hchild)

/-- A change of a flow opens nothing if it keeps the child of the flow or takes it away. -/
theorem OpensNone.modifyFlow (s : Session) (id : TaskId) {change : Flow → Flow}
    (hchange : ∀ flow, s.flowAt? id = some flow →
      (change flow).current = none ∨ (change flow).current = flow.current) :
    OpensNone s (s.modifyFlow id change) := by
  rintro owner child ⟨flow, hflow, hcurrent⟩
  rw [flowAt?_modifyFlow] at hflow
  split_ifs at hflow with hself
  · subst hself
    obtain ⟨before, hbefore, rfl⟩ := Option.map_eq_some_iff.mp hflow
    rcases hchange before hbefore with hnone | hsame
    · rw [hnone] at hcurrent
      cases hcurrent
    · exact ⟨before, hbefore, hsame ▸ hcurrent⟩
  · exact ⟨flow, hflow, hcurrent⟩

theorem OpensNone.concluded (s : Session) (id : TaskId) (mark : Bool) :
    OpensNone s (s.concluded id mark) := by
  unfold Session.concluded
  split_ifs
  · exact .modifyFlow s id fun _ _ => .inr rfl
  · exact .of_flows fun _ => rfl

theorem OpensNone.runChild {id : TaskId} {inner : Task}
    (hrun : s.runChild id child inner = (.ok (), s')) : OpensNone s s' := by
  rcases runChild_cases hrun with ⟨rfl, -⟩ | ⟨ran, heffect, -, rfl⟩
  · exact .of_flows fun _ => rfl
  · have hran : OpensNone s ran := by
      cases heffect with
      | updated | announced => exact .of_flows fun _ => rfl
      | broken => exact .modifyFlow s _ fun _ _ => .inr rfl
    exact hran.trans (.of_flows (flowAt?_complete ran child.task))

theorem OpensNone.foldChild (s : Session) (id : TaskId) (child : Child) :
    OpensNone s (s.foldChild id child) := by
  unfold Session.foldChild
  dsimp only
  refine OpensNone.trans (OpensNone.of_flows fun other => ?_)
    (.modifyFlow _ id fun _ _ => .inl rfl)
  split <;> rfl

theorem HasChild.taskAt? (hchild : s.HasChild owner child) (hwired : s.Wired) :
    ∃ task, s.taskAt? child.task = some task ∧ task.owner = some owner := by
  obtain ⟨flow, hflow, hcurrent⟩ := hchild
  obtain ⟨task, htask, -, howner⟩ := (hwired.linked hflow).child hcurrent
  exact ⟨task, htask, howner⟩

/-- The child that a flow has open after it was marked is marked. -/
theorem HasChild.interrupted (hchild : (s.markInterrupted owner).HasChild owner child) :
    child.interrupted = true := by
  obtain ⟨flow, hflow, hcurrent⟩ := hchild
  rw [markInterrupted_eq, flowAt?_modifyFlow_self] at hflow
  obtain ⟨before, -, rfl⟩ := Option.map_eq_some_iff.mp hflow
  obtain ⟨found, -, rfl⟩ := Option.map_eq_some_iff.mp hcurrent
  rfl

theorem AtChild.hasChild {scope : ScopeId} {flow : Flow} {inner : Task}
    (hat : s.AtChild scope owner flow child inner) : s.HasChild owner child := by
  obtain ⟨task, hwork⟩ := hat.working
  exact ⟨flow, hwork.flowAt?, hat.current⟩

/-- The flow that a task is opened as has nothing open. -/
theorem HasChild.of_openChild {scope : ScopeId} {id : TaskId} {flow : Flow} {decl : TaskDecl}
    {activity : Activity} (hat : s.AtStep scope id flow (.openTask decl))
    (hactivity : s.repository.activity decl (s.ambient id flow) = .ok activity)
    (hchild : (s.openChild id flow decl activity).HasChild owner child) :
    s.HasChild owner child ∨ owner = id ∧ child = s.nextChild flow := by
  obtain ⟨task, hwork⟩ := hat.working
  obtain ⟨flow', hflow', hcurrent⟩ := hchild
  by_cases hself : owner = id
  · subst hself
    rw [flowAt?_openChild hat] at hflow'
    cases hflow'
    cases hcurrent
    exact .inr ⟨rfl, rfl⟩
  · rw [flowAt?, taskAt?_openChild s (taskAt?_lt hwork.here), if_neg (Ne.symm hself)] at hflow'
    split_ifs at hflow' with hnew
    · have hsort : activity = .flow flow' := Task.flow?_eq_some_iff.mp hflow'
      have hbuilt : flow' = flow'.skeleton := (declares_of_activity (hsort ▸ hactivity)).1
      rw [hbuilt] at hcurrent
      cases hcurrent
    · exact .inl ⟨flow', hflow', hcurrent⟩

/-- A turn leaves the children of flows open, marks one or opens one. -/
theorem Turned.attended {result : Except Error Turn} (hturned : s.Turned result s')
    (hchild : s'.HasChild owner child) : Attended s s' owner result child := by
  have hkept : OpensNone s s' → Attended s s' owner result child :=
    fun hnone => .kept (hnone hchild)
  cases hturned with
  | idle | stuck | waiting | unbound | entered => exact hkept (.of_flows fun _ => rfl)
  | left _ _ _ _ _ hleave =>
      unfold leave at hleave
      dsimp only at hleave
      split_ifs at hleave <;> cases hleave <;> exact hkept (.of_flows fun _ => rfl)
  | @interrupted _ id flow opened _ hat =>
      by_cases hself : owner = id
      · subst hself
        obtain ⟨task, hwork⟩ := hat.working
        obtain ⟨flow', hflow', hcurrent⟩ := hchild
        rw [markInterrupted_eq, flowAt?_modifyFlow_self, hwork.flowAt?] at hflow'
        cases hflow'
        rw [Flow.interrupted, hat.current] at hcurrent
        cases hcurrent
        exact .marked hat.hasChild
      · obtain ⟨flow', hflow', hcurrent⟩ := hchild
        rw [markInterrupted_eq, flowAt?_modifyFlow, if_neg (Ne.symm hself)] at hflow'
        exact .kept ⟨flow', hflow', hcurrent⟩
  | settled _ _ _ hrun => exact hkept ((OpensNone.runChild hrun).trans (.foldChild _ _ _))
  | @dropped _ id _ opened =>
      exact hkept (OpensNone.modifyFlow (s.closeScope opened.scope) id fun _ _ => .inl rfl)
  | @skipped _ id | @unopened _ id =>
      exact hkept (OpensNone.modifyFlow s id fun _ _ => .inr rfl)
  | opened hat _ hactivity =>
      rcases HasChild.of_openChild hat hactivity hchild with hbefore | ⟨rfl, rfl⟩
      · exact .kept hbefore
      · exact .opened hat rfl
  | @passOpened _ id flow =>
      exact hkept (OpensNone.modifyFlow (s.openScope _ _) id fun _ _ => .inr rfl)
  | @passEnded _ id _ pass => exact hkept (OpensNone.modifyFlow _ id fun _ _ => .inr rfl)
  | @published _ id _ _ mark =>
      refine hkept ((OpensNone.concluded s id mark).trans (.of_flows fun other => ?_))
      rw [Session.published, flowAt?_complete, flowAt?_modifyScope]
  | unpublished => exact hkept (.concluded s _ true)

/-- Acting on a task opens nothing. -/
theorem Act.opensNone {id : TaskId} (hact : Act id s s') : OpensNone s s' := by
  rcases hact.quiet_or_returned with hquiet | ⟨task, entry, target, -, -, -, rfl⟩
  · exact .of_flows (hquiet.flowAt?_eq hact.grows)
  · rintro owner child ⟨flow, hflow, hcurrent⟩
    have hrestored : (s.restore target entry).flowAt? owner = some flow := hflow
    rw [flowAt?_restore] at hrestored
    split_ifs at hrestored
    · obtain ⟨before, -, rfl⟩ := Option.map_eq_some_iff.mp hrestored
      cases hcurrent
    · exact ⟨flow, hrestored, hcurrent⟩

end

/-! ## Breakpoints that are there in time -/

/-- Every open child with a breakpoint has been handed out for it, unless it is among the late
ones. -/
def Watches (s : Session) (late : TaskId → Prop) : Prop :=
  ∀ ⦃owner child task⦄, s.HasChild owner child → child.interrupted = false →
    s.taskAt? child.task = some task → task.name ∈ s.settings.breakpoints → late child.task

/-- Every open child with a breakpoint has been handed out for it or is so in this turn, unless it
is among the late ones. -/
def Stops (s : Session) (late : TaskId → Prop) : Prop :=
  ∀ ⦃owner child task⦄, s.HasChild owner child → child.interrupted = false →
    s.taskAt? child.task = some task → task.name ∈ s.settings.breakpoints →
      late child.task ∨ task.complete = false ∧
        s.turn = (.ok (.handOut child.task), s.markInterrupted owner)

section

variable {s s' start : Session} {late : TaskId → Prop}

theorem Watches.stops (hwatches : s.Watches late) : s.Stops late :=
  fun _ _ _ hchild hmark htask hname => .inl (hwatches hchild hmark htask hname)

theorem HasChild.name_before {owner : TaskId} {child : Child} {task : Task}
    (hchild : s.HasChild owner child) (hwired : s.Wired) (hgrows : Grows s s')
    (htask : s'.taskAt? child.task = some task) :
    ∃ before, s.taskAt? child.task = some before ∧ task.name = before.name := by
  obtain ⟨before, hbefore, -⟩ := hchild.taskAt? hwired
  obtain ⟨found, hfound, hskeleton, -⟩ := hgrows.tasks hbefore
  rw [htask] at hfound
  cases hfound
  exact ⟨before, hbefore, Task.name_of_skeleton hskeleton⟩

/-- A child that a turn keeps open has the breakpoint that it had before. -/
theorem Stops.kept (hstops : s.Stops late) (hwired : s.Wired) {result : Except Error Turn}
    (hturned : s.Turned result s') {owner : TaskId} {child : Child} {task : Task}
    (hchild : s.HasChild owner child) (hmark : child.interrupted = false)
    (htask : s'.taskAt? child.task = some task) (hname : task.name ∈ s'.settings.breakpoints) :
    late child.task ∨ s.turn = (.ok (.handOut child.task), s.markInterrupted owner) := by
  obtain ⟨before, hbefore, hsame⟩ := hchild.name_before hwired hturned.grows htask
  rw [hturned.cursors.2.1, hsame] at hname
  exact (hstops hchild hmark hbefore hname).imp_right And.right

/-- A child is stopped in the turn after the one that opened it. -/
theorem Stops.turn (hstops : s.Stops late) (hwired : s.Wired) (hturn : s.turn = (.ok .again, s')) :
    s'.Stops late := by
  have hturned := turned hturn
  have hgrows := hturned.grows
  intro owner child task hchild hmark htask hname
  cases hturned.attended hchild with
  | kept hbefore =>
      rcases hstops.kept hwired hturned hbefore hmark htask hname with hlate | hstopped
      · exact .inl hlate
      · rw [hturn] at hstopped
        cases hstopped
  | opened hat hafter =>
      subst hafter
      have hat' := hat.atChild_openChild hgrows
      rw [hat'.inner] at htask
      cases htask
      refine .inr ⟨rfl, hat'.turn_of_breakpoint hmark ?_⟩
      rwa [List.contains_iff_mem]

theorem Turns.stops {count : Nat} (hturns : Turns count s s') (hsound : s.Sound)
    (hstops : s.Stops late) : s'.Stops late := by
  induction hturns with
  | refl => exact hstops
  | turn hturn _ ih => exact ih ((turned hturn).sound hsound) (hstops.turn hsound.wired hturn)

/-- Once a pull has come to an answer, no child is to be stopped any more. -/
theorem Stops.watches {result : Except Error Turn} (hstops : s.Stops late) (hwired : s.Wired)
    (hturn : s.turn = (result, s')) (hlast : result ≠ .ok .again) : s'.Watches late := by
  have hturned := turned hturn
  intro owner child task hchild hmark htask hname
  cases hturned.attended hchild with
  | kept hbefore =>
      rcases hstops.kept hwired hturned hbefore hmark htask hname with hlate | hstopped
      · exact hlate
      · rw [hturn] at hstopped
        cases hstopped
        rw [hchild.interrupted] at hmark
        cases hmark
  | marked => cases hmark
  | opened => exact absurd rfl hlast

/-- A turn hands out a child because it waits for input, or for the first time for a breakpoint,
and then it is marked. -/
theorem handsOut_cases {id : TaskId} (hturn : s.turn = (.ok (.handOut id), s')) :
    ∃ owner child task, s.HasChild owner child ∧ child.task = id ∧ s.taskAt? id = some task ∧
      (task.complete = false ∨ child.interrupted = false ∧
        task.name ∈ s.settings.breakpoints ∧ s' = s.markInterrupted owner) := by
  obtain ⟨scope, owner, flow, child, inner, hat, rfl, -⟩ := (turned hturn).handsOut
  refine ⟨owner, child, inner, hat.hasChild, rfl, hat.inner, ?_⟩
  rcases hat.handOut_cases hturn with ⟨hmark, hbreak⟩ | hinput
  · rw [hat.turn_of_breakpoint hmark hbreak] at hturn
    cases hturn
    exact .inr ⟨hmark, List.contains_iff_mem.mp hbreak, rfl⟩
  · rw [Task.requiresInput, Bool.and_eq_true_iff, Bool.not_eq_true'] at hinput
    exact .inl hinput.1

/-- Handing a task out does not complete it. -/
theorem complete_of_handOut {id other : TaskId} {task : Task}
    (hturn : s.turn = (.ok (.handOut id), s')) (htask : s.taskAt? other = some task) :
    ∃ task', s'.taskAt? other = some task' ∧ task'.complete = task.complete := by
  obtain ⟨-, owner, -, -, -, -, -, rfl | rfl⟩ := (turned hturn).handsOut
  · exact ⟨task, htask, rfl⟩
  · rw [markInterrupted_eq, taskAt?_modifyFlow, htask]
    split_ifs
    · exact ⟨_, rfl, (Task.mapFlow_others _ task).2.2.2⟩
    · exact ⟨task, rfl, rfl⟩

/-! ## Breakpoints that are set late -/

/-- A breakpoint with the name of the task was set when the task had been opened already. -/
def SetLate (start s : Session) (id : TaskId) : Prop :=
  ∃ r task, start.Drives r ∧ r.taskAt? id = some task ∧ task.name ∉ r.settings.breakpoints ∧
    (r.setBreakpoint task.name).Drives s

theorem SetLate.drives {id : TaskId} (hlate : SetLate start s id) (hdrives : s.Drives s') :
    SetLate start s' id := by
  obtain ⟨r, task, hbefore, htask, hname, hafter⟩ := hlate
  exact ⟨r, task, hbefore, htask, hname, hafter.trans hdrives⟩

theorem mem_setBreakpoint {name other : String}
    (hmem : other ∈ (s.setBreakpoint name).settings.breakpoints) :
    other ∈ s.settings.breakpoints ∨ other = name := by
  simp only [setBreakpoint, SessionSettings.insertBreakpoint] at hmem
  split_ifs at hmem
  · exact .inl hmem
  · simpa [SessionSettings.appendBreakpoint] using hmem

theorem Acts.opensNone {id : TaskId} (hacts : Acts id s s') :
    OpensNone s s' ∧ s'.settings = s.settings := by
  induction hacts with
  | refl => exact ⟨fun _ _ hchild => hchild, rfl⟩
  | @tail r s' _ hact ih =>
      refine ⟨ih.1.trans hact.opensNone, ?_⟩
      rw [← ih.2]
      rcases hact.quiet_or_returned with hquiet | ⟨task, entry, target, -, -, -, rfl⟩
      · exact hquiet.settings
      · exact (restore_others r target entry).2.1

/-- Acting on a task leaves no child to be stopped. -/
theorem Watches.acts {id : TaskId} (hwatches : s.Watches late) (hwired : s.Wired)
    (hacts : Acts id s s') : s'.Watches late := by
  obtain ⟨hnone, hsettings⟩ := hacts.opensNone
  intro owner child task hchild hmark htask hname
  obtain ⟨before, hbefore, hsame⟩ :=
    (hnone hchild).name_before hwired (Moves.grows hacts.moves) htask
  rw [hsettings, hsame] at hname
  exact hwatches (hnone hchild) hmark hbefore hname

/-- A breakpoint that is set on an open child is set late. -/
theorem Watches.setBreakpoint (hwatches : s.Watches (SetLate start s)) (hdrives : start.Drives s)
    (name : String) : (s.setBreakpoint name).Watches (SetLate start (s.setBreakpoint name)) := by
  intro owner child task hchild hmark htask hname
  by_cases hbefore : task.name ∈ s.settings.breakpoints
  · exact (hwatches hchild hmark htask hbefore).drives (.single (.operated (.breakpointSet name)))
  · obtain rfl := (mem_setBreakpoint hname).resolve_left hbefore
    exact ⟨s, task, hdrives, htask, hbefore, .refl⟩

theorem Watches.step (hwatches : s.Watches (SetLate start s)) (hdrives : start.Drives s)
    (hsound : s.Sound) (hstep : s.Step s') : s'.Watches (SetLate start s') := by
  have hlater : s'.Watches (SetLate start s) → s'.Watches (SetLate start s') :=
    fun hafter _ _ _ hchild hmark htask hname =>
      (hafter hchild hmark htask hname).drives (.single (.operated hstep))
  cases hstep with
  | pulled hpull hanswer =>
      obtain ⟨count, r, result, hturns, hlast, hresult⟩ := exists_last_turn hpull hanswer
      have hsound' := Moves.sound hturns.moves hsound
      refine hlater ((hturns.stops hsound hwatches.stops).watches hsound'.wired hlast ?_)
      rintro rfl
      cases hresult
  | filledIn id field value =>
      exact hlater (hwatches.acts hsound.wired (fillIn_acts s id field value))
  | clicked id component => exact hlater (hwatches.acts hsound.wired (click_acts s id component))
  | answered id value => exact hlater (hwatches.acts hsound.wired (answer_acts s id value))
  | breakpointSet name => exact hwatches.setBreakpoint hdrives name

/-- Whatever the program around a session does, the breakpoints of open children that were not
handed out for them have been set late. -/
theorem Drives.watches {document : Document} {settings : SessionSettings} {ownsEvents : Bool}
    (hstart : Session.start document settings ownsEvents = .ok start) (hdrives : start.Drives s) :
    s.Watches (SetLate start s) := by
  induction hdrives with
  | refl =>
      obtain ⟨declared, -, rfl⟩ := start_eq hstart
      rintro owner child task ⟨flow, hflow, hcurrent⟩
      rw [current_initial hflow] at hcurrent
      cases hcurrent
  | @tail r s' hbefore hdrive ih =>
      have hdriven : r.Driven := ⟨document, settings, ownsEvents, start, hstart, hbefore⟩
      cases hdrive with
      | operated hstep => exact ih.step hbefore hdriven.orderly.1.sound hstep
      | requeued events =>
          intro owner child task hchild hmark htask hname
          exact (ih hchild hmark htask hname).drives (.single (.requeued events))

/-! ## Tasks that are not handed out again -/

/-- The task is complete, and where it is an open child it has been handed out for a breakpoint. -/
structure Spent (s : Session) (id : TaskId) : Prop where
  complete : ∃ task, s.taskAt? id = some task ∧ task.complete = true
  marked : ∀ ⦃owner child⦄, s.HasChild owner child → child.task = id → child.interrupted = true

theorem Spent.grows {id : TaskId} (hspent : s.Spent id) (hgrows : Grows s s')
    (hmarked : ∀ ⦃owner child⦄, s'.HasChild owner child → child.task = id →
      child.interrupted = true) : s'.Spent id := by
  obtain ⟨task, htask, hcomplete⟩ := hspent.complete
  obtain ⟨task', htask', -, hcomplete'⟩ := hgrows.tasks htask
  exact ⟨⟨task', htask', hcomplete' hcomplete⟩, hmarked⟩

theorem Spent.moment {id : TaskId} (hspent : s.Spent id) (hmoment : Moment s s') :
    s'.Spent id := by
  refine hspent.grows hmoment.grows fun owner child hchild hid => ?_
  cases hmoment with
  | turn hturn =>
      cases (turned hturn).attended hchild with
      | kept hbefore => exact hspent.marked hbefore hid
      | marked => rfl
      | opened =>
          obtain ⟨task, htask, -⟩ := hspent.complete
          have hnone := taskAt?_nextTask s
          rw [show s.nextTask = id from hid, htask] at hnone
          cases hnone
  | act _ hact => exact hspent.marked (hact.opensNone hchild) hid
  | breakpoint | requeued => exact hspent.marked hchild hid

theorem Spent.evolves {id : TaskId} (hspent : s.Spent id) (hevolves : s.Evolves s') :
    s'.Spent id := by
  induction hevolves with
  | refl => exact hspent
  | tail _ hmoment ih => exact ih.moment hmoment

theorem Spent.not_handedOut {id : TaskId} (hspent : s.Spent id) (turns : Nat) :
    (s.pullWithin turns).1 ≠ .task id := by
  intro hanswer
  obtain ⟨count, r, result, hturns, hlast, hresult⟩ :=
    exists_last_turn (Prod.eta (s.pullWithin turns)).symm (by rw [hanswer]; exact Pull.noConfusion)
  rw [hanswer] at hresult
  cases answer?_eq_task hresult
  have hspent' := hspent.evolves hturns.evolves
  obtain ⟨task, htask, hcomplete⟩ := hspent'.complete
  obtain ⟨owner, child, found, hchild, hid, hfound, hopen | ⟨hmark, -⟩⟩ := handsOut_cases hlast
  · rw [htask] at hfound
    cases hfound
    rw [hcomplete] at hopen
    cases hopen
  · rw [hspent'.marked hchild hid] at hmark
    cases hmark

/-- A complete task that has been handed out for a breakpoint is marked, where it is open. -/
theorem spent_markInterrupted {owner : TaskId} {child : Child} {task : Task} (hsound : s.Sound)
    (hsound' : (s.markInterrupted owner).Sound) (hchild : s.HasChild owner child)
    (htask : s.taskAt? child.task = some task) (hcomplete : task.complete = true) :
    (s.markInterrupted owner).Spent child.task := by
  have hgrows : Grows s (s.markInterrupted owner) := .modifyFlow (.refl s) owner fun _ => rfl
  obtain ⟨task', htask', hskeleton, hcomplete'⟩ := hgrows.tasks htask
  refine ⟨⟨task', htask', hcomplete' hcomplete⟩, fun other found hfound hid => ?_⟩
  obtain ⟨before, hbefore, howner⟩ := hchild.taskAt? hsound.wired
  rw [htask] at hbefore
  cases hbefore
  obtain ⟨after, hafter, howner'⟩ := hfound.taskAt? hsound'.wired
  rw [hid, htask'] at hafter
  cases hafter
  rw [Task.owner_of_skeleton hskeleton, howner] at howner'
  cases howner'
  exact hfound.interrupted

/-- A task that a pull hands out is not complete, unless a breakpoint with its name was set when it
had been opened already.  A complete task that is handed out for such a breakpoint is never handed
out again. -/
theorem handedOut_open_or_late {document : Document} {settings : SessionSettings}
    {ownsEvents : Bool} {turns : Nat} {id : TaskId}
    (hstart : Session.start document settings ownsEvents = .ok start) (hdrives : start.Drives s)
    (hpull : s.pullWithin turns = (.task id, s')) :
    ∃ task, s'.taskAt? id = some task ∧ (task.complete = true → SetLate start s id ∧
      ∀ later more, s'.Drives later → (later.pullWithin more).1 ≠ .task id) := by
  have hdriven : s.Driven := ⟨document, settings, ownsEvents, start, hstart, hdrives⟩
  have hstep : s.Drives s' := .single (.operated (.pulled hpull Pull.noConfusion))
  obtain ⟨count, r, result, hturns, hlast, hresult⟩ := exists_last_turn hpull Pull.noConfusion
  cases answer?_eq_task hresult
  have hsound := hdriven.orderly.1.sound
  have hsound' := Moves.sound hturns.moves hsound
  have hstops := hturns.stops hsound (hdrives.watches hstart).stops
  obtain ⟨owner, child, task, hchild, rfl, htask, hcases⟩ := handsOut_cases hlast
  obtain ⟨task', htask', hsame⟩ := complete_of_handOut hlast htask
  refine ⟨task', htask', fun hcomplete => ?_⟩
  rw [hsame] at hcomplete
  rcases hcases with hopen | ⟨hmark, hname, rfl⟩
  · rw [hcomplete] at hopen
    cases hopen
  · have hspent :=
      spent_markInterrupted hsound' ((turned hlast).sound hsound') hchild htask hcomplete
    have hafter := (hdriven.drives hstep).orderly
    refine ⟨(hstops hchild hmark htask hname).resolve_right fun hopen => ?_,
      fun later more hlater => ?_⟩
    · rw [hcomplete] at hopen
      cases hopen.1
    · exact (hspent.evolves (hlater.evolves hafter.1 hafter.2).1).not_handedOut more

end

/-- The session of `detourDocument` whose first screen was answered and then given a breakpoint. -/
def welcomeWatched : Session :=
  ((initial detourDocument {} true {}).pull.2.click ⟨1⟩ "next").2.setBreakpoint "welcome"

theorem welcomeWatched_drives : (initial detourDocument {} true {}).Drives welcomeWatched := by
  have hrun : (initial detourDocument {} true {}).Run
      ((initial detourDocument {} true {}).pull.2.click ⟨1⟩ "next").2 :=
    run_carryOut [.pull, .click ⟨1⟩ "next"] (by decide +kernel)
  exact hrun.drives.tail (.operated (.breakpointSet "welcome"))

/-- The answered screen is handed out for its breakpoint, and never again. -/
theorem welcome_handedOut :
    ∃ task, welcomeWatched.pull.2.taskAt? ⟨1⟩ = some task ∧ task.complete = true ∧
      ∀ later more, welcomeWatched.pull.2.Drives later →
        (later.pullWithin more).1 ≠ .task ⟨1⟩ := by
  have hstart : Session.start detourDocument {} true = .ok (initial detourDocument {} true {}) :=
    start_initial (by decide +kernel) rfl
  have hfirst : welcomeWatched.pull.1 = .task ⟨1⟩ := by decide +kernel
  obtain ⟨turns, hpull, -⟩ := Pulls.of_pull hfirst
  obtain ⟨task, htask, hlate⟩ := handedOut_open_or_late hstart welcomeWatched_drives hpull
  have hcomplete : (welcomeWatched.pull.2.taskAt? ⟨1⟩).map Task.complete = some true := by
    decide +kernel
  rw [htask] at hcomplete
  have hcomplete := Option.some.inj hcomplete
  exact ⟨task, htask, hcomplete, (hlate hcomplete).2⟩

/-- Not every task that is handed out is open. -/
theorem handedOut_not_open :
    ¬∀ (s s' : Session) (id : TaskId) (task : Task), s.Driven → s.Pulls (.task id) s' →
      s'.taskAt? id = some task → task.complete = false := by
  intro hopen
  have hstart : Session.start detourDocument {} true = .ok (initial detourDocument {} true {}) :=
    start_initial (by decide +kernel) rfl
  have hdriven : welcomeWatched.Driven := ⟨_, _, _, _, hstart, welcomeWatched_drives⟩
  have hcomplete : ∃ task, welcomeWatched.pull.2.taskAt? ⟨1⟩ = some task ∧ task.complete = true :=
    ⟨(welcomeWatched.pull.2.taskAt? ⟨1⟩).get (by decide +kernel), by decide +kernel⟩
  obtain ⟨task, htask, hcomplete⟩ := hcomplete
  have hfalse := hopen _ _ ⟨1⟩ task hdriven (Pulls.of_pull (by decide +kernel)) htask
  rw [hcomplete] at hfalse
  cases hfalse

end Workflow.Session
