import Workflow.Proofs.Session.Keeping

/-!
# What the history knows

A click records at most one screen, or asks at most once to go back, and apart from that touches
nothing but the task that is clicked, `Session.Clicked`.

A record stores how many snapshots its flow had, not which.  This is enough: the snapshots of a
running flow are only added to, and going back to a record that lies above another one in the
history leaves at least as many as that other one counts.  So as long as a record can still be gone
back to, its flow begins with the snapshots that it had when the record was made,
`Session.Guarded`.
-/

namespace Workflow

/-- What a component asks for when it is pressed: its action comes last. -/
theorem Component.press_effects {component pressed : Component} {effects : List ClickEffect}
    (hpress : component.press = (.ok effects, pressed)) :
    effects = [] ∨ (∃ action, effects = [.action action]) ∨
      ∃ patch action, effects = [.update patch, .action action] := by
  unfold Component.press at hpress
  split at hpress
  · cases hpress
    exact .inl rfl
  · next action _ _ value _ _ =>
      have heffects := congrArg Prod.fst hpress
      dsimp only at heffects
      unfold Component.buttonEffects at heffects
      split at heffects
      · next path _ =>
          split_ifs at heffects
          · cases heffects
            exact .inr (.inl ⟨action, rfl⟩)
          · obtain ⟨patch, -, hpatch⟩ := exists_of_map_eq_ok heffects
            exact .inr (.inr ⟨patch, action, hpatch.symm⟩)
      · cases heffects
        exact .inr (.inl ⟨action, rfl⟩)
  · cases hpress

theorem Component.click_effects {component clicked : Component} {judge : Judge}
    {effects : List ClickEffect} (hclick : component.click judge = (.ok effects, clicked)) :
    effects = [] ∨ (∃ action, effects = [.action action]) ∨
      ∃ patch action, effects = [.update patch, .action action] := by
  unfold Component.click at hclick
  split_ifs at hclick
  · split at hclick
    · cases hclick
    · exact Component.press_effects hclick
    · cases hclick
  · cases hclick

namespace Session

/-! ## Clicks and the history -/

/-- The record of a flow with its child open. -/
def visitAt (s : Session) (owner : TaskId) (flow : Flow) (child : Child) (screen : String) :
    Visit where
  flow := owner
  mark := flow.markAt child.place
  state := (s.scope (s.scopeOf owner)).state
  result := (s.scope (s.scopeOf owner)).result
  pass := flow.pass.map fun pass => ((s.scope pass).state, (s.scope pass).result)
  screen

/-- A record is made for the child of a flow. -/
theorem visitOf_eq_some {s : Session} {id : TaskId} {flow : Flow} {entry : Visit}
    (hvisit : s.visitOf id = .ok (some (flow, entry))) :
    ∃ task owner child, s.taskAt? id = some task ∧ task.owner = some owner ∧
      s.flowAt? owner = some flow ∧ flow.current = some child ∧ child.task = id ∧
      entry = s.visitAt owner flow child task.name := by
  unfold visitOf at hvisit
  cases htask : s.task id with
  | error error =>
      rw [htask] at hvisit
      cases hvisit
  | ok task =>
      rw [htask] at hvisit
      dsimp only [bind, Except.bind] at hvisit
      cases howner : task.owner with
      | none =>
          rw [howner] at hvisit
          cases hvisit
      | some owner =>
          rw [howner] at hvisit
          dsimp only at hvisit
          cases hflow : s.flow owner with
          | error error =>
              rw [hflow] at hvisit
              cases hvisit
          | ok found =>
              rw [hflow] at hvisit
              dsimp only at hvisit
              cases hcurrent : found.current with
              | none =>
                  rw [hcurrent] at hvisit
                  cases hvisit
              | some child =>
                  rw [hcurrent] at hvisit
                  dsimp only at hvisit
                  split_ifs at hvisit with hchild
                  · cases hvisit
                    exact ⟨task, owner, child, task_eq_ok_iff.mp htask, howner,
                      flow_eq_ok_iff.mp hflow, hcurrent, hchild, rfl⟩
                  · cases hvisit

theorem Quiet.trans {s s' s'' : Session} {id : TaskId} (hfirst : Quiet id s s')
    (hsecond : Quiet id s' s'') (hgrows : Grows s s') : Quiet id s s'' where
  active := hsecond.active.trans hfirst.active
  settings := hsecond.settings.trans hfirst.settings
  redirectedTo := hsecond.redirectedTo.trans hfirst.redirectedTo
  tasks := hsecond.tasks.trans hfirst.tasks
  flows := fun htask hisFlow => hsecond.flows (hfirst.flows htask hisFlow) hisFlow
  scopes := by
    intro scope
    rcases hsecond.scopes scope with hsame | ⟨task', htask', hinput', hscope'⟩
    · rw [hsame]
      exact hfirst.scopes scope
    · have hlt : id.index < s.tasks.size := hfirst.tasks ▸ taskAt?_lt htask'
      obtain ⟨before, htask, hskeleton⟩ := hgrows.exists_before htask' hlt
      exact .inr ⟨_, htask, (Task.takesInput_of_skeleton hskeleton).symm.trans hinput',
        (Task.scope_of_skeleton hskeleton).symm.trans hscope'⟩

/-- Acts on a task that concern the task alone: none makes a record or asks to go back. -/
structure Still (id : TaskId) (s s' : Session) : Prop where
  acts : Acts id s s'
  quiet : Quiet id s s'
  history : s'.history = s.history
  events : s'.events = s.events

namespace Still

variable {s s' s'' : Session} {id : TaskId}

theorem refl (s : Session) (id : TaskId) : Still id s s where
  acts := .refl
  quiet := .of_same rfl rfl rfl rfl rfl
  history := rfl
  events := rfl

theorem trans (hfirst : Still id s s') (hsecond : Still id s' s'') : Still id s s'' where
  acts := hfirst.acts.trans hsecond.acts
  quiet := hfirst.quiet.trans hsecond.quiet (Moves.grows hfirst.acts.moves)
  history := hsecond.history.trans hfirst.history
  events := hsecond.events.trans hfirst.events

theorem screenSet {task : Task} {old : Screen} (new : Screen) (htask : s.taskAt? id = some task)
    (hscreen : task.activity = .screen old) (hkept : new.skeleton = old.skeleton) :
    Still id s (s.setScreen id new) where
  acts := .single (.screenSet new htask hscreen hkept)
  quiet := quiet_modifyTask htask (Task.takesInput_of_screen hscreen) _
  history := rfl
  events := rfl

theorem patched {task : Task} (patch : Value) (htask : s.taskAt? id = some task)
    (hinput : task.takesInput = true) :
    Still id s (s.modifyScope task.scope fun scope =>
      (scope.mergeResult patch).mergeState patch) where
  acts := .single (.patched patch htask hinput)
  quiet := quiet_modifyScope htask hinput _
  history := rfl
  events := rfl

theorem left {task : Task} (result : Value) (htask : s.taskAt? id = some task)
    (hinput : task.takesInput = true) :
    Still id s ((s.modifyScope task.scope (·.mergeResult result)).complete id) where
  acts := (Relation.ReflTransGen.single (.resultMerged result htask hinput)).tail
    (.completed htask hinput)
  quiet := by
    have hmerged : (s.modifyScope task.scope (·.mergeResult result)).taskAt? id = some task := htask
    exact (quiet_modifyScope htask hinput _).trans (quiet_modifyTask hmerged hinput _)
      (.modifyScope (.refl s) _ (Scope.keepsBinding_mergeResult result))
  history := rfl
  events := rfl

theorem isScreen (hstill : Still id s s') (hscreen : s.IsScreen id) : s'.IsScreen id :=
  hstill.acts.isScreen hscreen

end Still

/-- What a click comes to. -/
inductive Clicked (s : Session) (id : TaskId) : Session → Prop
  | still {s' : Session} (hstill : Still id s s') : Clicked s id s'
  | recorded {r s' : Session} {flow : Flow} {entry : Visit} (hbefore : Still id s r)
      (hvisit : r.visitOf id = .ok (some (flow, entry)))
      (hafter : Still id (r.remember flow entry) s') : Clicked s id s'
  | refused {r : Session} {task : Task} (hbefore : Still id s r)
      (htask : r.taskAt? id = some task) : Clicked s id (r.emit (.backAsked task.name false))
  | returned {r : Session} {task : Task} {entry : Visit} {target : ScopeId}
      (hbefore : Still id s r) (htask : r.taskAt? id = some task)
      (hentry : r.history.head? = some entry)
      (htarget : r.returnTarget? entry.flow task.owner r.active.toList = some target) :
      Clicked s id ((r.restore target entry).emit (.backAsked task.name true))

section

variable {s r s' : Session} {id : TaskId}

theorem Clicked.after (hstill : Still id s r) (hclicked : Clicked r id s') : Clicked s id s' := by
  cases hclicked with
  | still hafter => exact .still (hstill.trans hafter)
  | recorded hbefore hvisit hafter => exact .recorded (hstill.trans hbefore) hvisit hafter
  | refused hbefore htask => exact .refused (hstill.trans hbefore) htask
  | returned hbefore htask hentry htarget =>
      exact .returned (hstill.trans hbefore) htask hentry htarget

theorem leaveScreen_clicked (hscreen : s.IsScreen id) : Clicked s id (s.leaveScreen id).2 := by
  obtain ⟨task, screen, htask, hactivity⟩ := hscreen
  have hinput := Task.takesInput_of_screen hactivity
  obtain ⟨recorded, hrecorded, hleft⟩ := leaveScreen_cases htask
  have hafter : Still id recorded (s.leaveScreen id).2 := by
    rcases hleft with hleft | ⟨_, result, -, -, hleft⟩
    · rw [hleft]
      exact .refl recorded id
    · rw [hleft]
      exact .left result ((hrecorded.taskAt? id).trans htask) hinput
  cases hrecorded with
  | nothing => exact .still hafter
  | visit hvisit => exact .recorded (.refl s id) hvisit hafter

theorem judgeScreen_still (hscreen : s.IsScreen id) : Still id s (s.judgeScreen id).2 := by
  obtain ⟨task, screen, hfound, htask, hactivity⟩ := screenTask_of_isScreen hscreen
  simp only [judgeScreen, hfound]
  exact .screenSet _ htask hactivity (screen.skeleton_validate _)

theorem submit_clicked (hscreen : s.IsScreen id) : Clicked s id (s.submit id).2 := by
  have hjudged := judgeScreen_still hscreen
  unfold submit
  split
  · next judged hjudge =>
      rw [hjudge] at hjudged
      exact (leaveScreen_clicked (hjudged.isScreen hscreen)).after hjudged
  all_goals
    next judged hjudge =>
      rw [hjudge] at hjudged
      exact .still hjudged

theorem goBack_clicked (s : Session) (id : TaskId) : Clicked s id (s.goBack id).2 := by
  unfold goBack
  cases htask : s.task id with
  | error error => exact .still (.refl s id)
  | ok task =>
      have htask' := task_eq_ok_iff.mp htask
      dsimp only
      split
      · exact .refused (.refl s id) htask'
      · next target entry hfound =>
          obtain ⟨found, hentry, hmap⟩ := Option.bind_eq_some_iff.mp hfound
          obtain ⟨scope, htarget, hpair⟩ := Option.map_eq_some_iff.mp hmap
          cases hpair
          exact .returned (.refl s id) htask' hentry htarget

theorem performAction_clicked (hscreen : s.IsScreen id) (action : String) :
    Clicked s id (s.performAction id action).2 := by
  unfold performAction
  split_ifs
  · exact submit_clicked hscreen
  · exact leaveScreen_clicked hscreen
  · exact goBack_clicked s id
  · exact .still (.refl s id)

/-- An action is the last effect of a click. -/
theorem performAll_action (s : Session) (id : TaskId) (action : String) :
    s.performAll id [.action action] = s.performAction id action := by
  rw [performAll, perform]
  cases s.performAction id action with
  | mk outcome performed => cases outcome <;> rfl

theorem performAll_clicked {effects : List ClickEffect} (hscreen : s.IsScreen id)
    (heffects : effects = [] ∨ (∃ action, effects = [.action action]) ∨
      ∃ patch action, effects = [.update patch, .action action]) :
    Clicked s id (s.performAll id effects).2 := by
  rcases heffects with rfl | ⟨action, rfl⟩ | ⟨patch, action, rfl⟩
  · exact .still (.refl s id)
  · rw [performAll_action]
    exact performAction_clicked hscreen action
  · obtain ⟨task, screen, htask, hactivity⟩ := hscreen
    have hpatched := Still.patched patch htask (Task.takesInput_of_screen hactivity)
    rw [performAll, perform, scopeOf_eq_of_taskAt? htask]
    dsimp only
    rw [performAll_action]
    exact (performAction_clicked (hpatched.isScreen ⟨task, screen, htask, hactivity⟩)
      action).after hpatched

/-- A click makes at most one record, or goes back to at most one. -/
theorem click_clicked (s : Session) (id : TaskId) (component : String) :
    Clicked s id (s.click id component).2 := by
  rcases click_cases s id component with hsame | ⟨task, screen, changed, htask, hactivity, hkept,
    hset⟩
  · rw [hsame]
    exact .still (.refl s id)
  · have hstill := Still.screenSet changed htask hactivity hkept
    rcases hset with hset | ⟨place, pressed, clicked, effects, -, hclick, hset⟩
    · rw [hset]
      exact .still hstill
    · rw [hset]
      exact (performAll_clicked (hstill.isScreen ⟨task, screen, htask, hactivity⟩)
        (Component.click_effects hclick)).after hstill

/-- A click that makes the history longer makes a record. -/
theorem Clicked.recorded_of_lt (hclicked : Clicked s id s') (hsound : s.Sound)
    (hlonger : s.historyDepth < s'.historyDepth) :
    ∃ r flow entry, Still id s r ∧ r.visitOf id = .ok (some (flow, entry)) ∧
      Still id (r.remember flow entry) s' := by
  unfold historyDepth Cursor.depth at hlonger
  cases hclicked with
  | still hstill =>
      rw [hstill.history] at hlonger
      exact absurd hlonger (Nat.lt_irrefl _)
  | recorded hbefore hvisit hafter => exact ⟨_, _, _, hbefore, hvisit, hafter⟩
  | @refused r _ hbefore =>
      change s.history.toList.length < r.history.toList.length at hlonger
      rw [hbefore.history] at hlonger
      exact absurd hlonger (Nat.lt_irrefl _)
  | @returned r _ entry target hbefore =>
      change s.history.toList.length < (r.restore target entry).history.toList.length at hlonger
      rw [(restore_others r target entry).2.2.2.2.1, hbefore.history,
        Cursor.toList_pop hsound.history, List.length_tail] at hlonger
      omega

/-- A click that makes the history shorter goes back. -/
theorem Clicked.returned_of_lt (hclicked : Clicked s id s') (hsound : s.Sound)
    (hshorter : s'.historyDepth < s.historyDepth) :
    ∃ r task entry target, Still id s r ∧ r.taskAt? id = some task ∧
      r.history.head? = some entry ∧
      r.returnTarget? entry.flow task.owner r.active.toList = some target ∧
      s' = (r.restore target entry).emit (.backAsked task.name true) := by
  unfold historyDepth Cursor.depth at hshorter
  cases hclicked with
  | still hstill =>
      rw [hstill.history] at hshorter
      exact absurd hshorter (Nat.lt_irrefl _)
  | @recorded r _ flow entry hbefore _ hafter =>
      have hpushed : (r.remember flow entry).history = s.history.push entry := by
        rw [← hbefore.history]
        rfl
      rw [hafter.history, hpushed, Cursor.toList_push hsound.history, List.length_cons] at hshorter
      omega
  | @refused r _ hbefore =>
      change r.history.toList.length < s.history.toList.length at hshorter
      rw [hbefore.history] at hshorter
      exact absurd hshorter (Nat.lt_irrefl _)
  | returned hbefore htask hentry htarget =>
      exact ⟨_, _, _, _, hbefore, htask, hentry, htarget, rfl⟩

end

/-! ## Snapshots -/

/-- Every flow has at least the snapshots that it had. -/
def AddsSnapshots (s s' : Session) : Prop :=
  ∀ id flow, s.flowAt? id = some flow →
    ∃ flow', s'.flowAt? id = some flow' ∧ flow.snapshots <+: flow'.snapshots

namespace AddsSnapshots

variable {s s' : Session}

theorem refl (s : Session) : AddsSnapshots s s :=
  fun _ flow hflow => ⟨flow, hflow, List.prefix_rfl⟩

theorem modifyFlow (hadds : AddsSnapshots s s') (id : TaskId) {change : Flow → Flow}
    (hchange : ∀ flow, flow.snapshots <+: (change flow).snapshots) :
    AddsSnapshots s (s'.modifyFlow id change) := by
  intro other flow hflow
  obtain ⟨flow', hflow', hbegins⟩ := hadds other flow hflow
  rw [flowAt?_modifyFlow]
  split_ifs
  · exact ⟨change flow', by rw [hflow']; rfl, hbegins.trans (hchange flow')⟩
  · exact ⟨flow', hflow', hbegins⟩

theorem complete (hadds : AddsSnapshots s s') (id : TaskId) :
    AddsSnapshots s (s'.complete id) := by
  intro other flow hflow
  rw [flowAt?_complete]
  exact hadds other flow hflow

theorem openTask (hadds : AddsSnapshots s s') (task : Task) :
    AddsSnapshots s (s'.openTask task) := by
  intro other flow hflow
  obtain ⟨flow', hflow', hbegins⟩ := hadds other flow hflow
  obtain ⟨found, hfound, -⟩ := flowAt?_eq_some_iff.mp hflow'
  have hne : other ≠ s'.nextTask := TaskId.ne_of_lt (taskAt?_lt hfound)
  exact ⟨flow', by rw [flowAt?_openTask, if_neg hne, hflow'], hbegins⟩

theorem attempt (s : Session) (id : TaskId) (flow : Flow) :
    AddsSnapshots s (s.attempt id flow) :=
  modifyFlow (refl s) id fun _ => List.prefix_rfl

theorem concluded (s : Session) (id : TaskId) (mark : Bool) :
    AddsSnapshots s (s.concluded id mark) := by
  unfold Session.concluded
  split_ifs
  · exact modifyFlow (refl s) id fun _ => List.prefix_rfl
  · exact refl s

theorem runChild {id : TaskId} {child : Child} {task : Task}
    (hrun : s.runChild id child task = (.ok (), s')) : AddsSnapshots s s' := by
  rcases runChild_cases hrun with ⟨rfl, -⟩ | ⟨ran, heffect, -, rfl⟩
  · exact refl s'
  · refine complete ?_ child.task
    cases heffect with
    | updated | announced => exact refl s
    | broken => exact modifyFlow (refl s) _ fun _ => List.prefix_rfl

theorem foldChild (hadds : AddsSnapshots s s') (id : TaskId) (child : Child) :
    AddsSnapshots s (s'.foldChild id child) := by
  unfold Session.foldChild
  dsimp only
  refine modifyFlow ?_ id fun _ => List.prefix_rfl
  split <;> exact hadds

end AddsSnapshots

/-- A turn takes no snapshot away. -/
theorem Turned.addsSnapshots {s s' : Session} {result : Except Error Turn}
    (hturned : s.Turned result s') : AddsSnapshots s s' := by
  cases hturned with
  | idle | stuck | waiting | unbound | entered => exact .refl s
  | left _ _ _ _ _ hleave =>
      unfold leave at hleave
      dsimp only at hleave
      split_ifs at hleave <;> cases hleave <;> exact .refl s
  | interrupted | dropped | passOpened =>
      exact .modifyFlow (.refl s) _ fun _ => List.prefix_rfl
  | settled _ _ _ hrun => exact .foldChild (.runChild hrun) _ _
  | @skipped _ id flow | @unopened _ id flow => exact .attempt s id flow
  | opened => exact .modifyFlow (.openTask (.attempt s _ _) _) _ fun _ => List.prefix_rfl
  | passEnded => exact .modifyFlow (.refl s) _ fun flow => List.prefix_append _ _
  | published => exact .complete (.concluded s _ _) _
  | unpublished => exact .concluded s _ true

theorem Quiet.addsSnapshots {s s' : Session} {id : TaskId} (hquiet : Quiet id s s') :
    AddsSnapshots s s' := by
  intro other flow hflow
  exact ⟨flow, hquiet.flowAt? hflow, List.prefix_rfl⟩

theorem flowAt?_restore (s : Session) (target : ScopeId) (entry : Visit) (id : TaskId) :
    (s.restore target entry).flowAt? id =
      if entry.flow = id then
        (s.flowAt? id).map (·.returnTo entry.mark (s.passBack target entry))
      else s.flowAt? id := by
  rw [flowAt?, taskAt?_restore]
  split_ifs
  · rw [flowAt?]
    cases s.taskAt? id with
    | none => rfl
    | some task => simp
  · rfl

/-! ## Records that can be gone back to -/

/-- The record behind `handle` is the given one.  As long as the history still holds it, its flow
begins with the given snapshots, and so it will after going back to any record above. -/
structure Guarded (s : Session) (handle : Handle) (entry : Visit) (snapshots : List Value) :
    Prop where
  inRange : s.history.arena.InRange handle
  head : s.history.arena.head? handle = some entry
  kept : ∀ visits, s.history.arena.Pops s.history.handle visits handle →
    (∃ flow, s.flowAt? entry.flow = some flow ∧ snapshots <+: flow.snapshots) ∧
      ∀ visit ∈ visits, visit.flow = entry.flow → snapshots.length ≤ visit.mark.snapshots

section

variable {s s' : Session} {handle : Handle} {entry : Visit} {snapshots : List Value}

theorem Guarded.of_adds (hguarded : s.Guarded handle entry snapshots)
    (hadds : AddsSnapshots s s') (hhistory : s'.history = s.history) :
    s'.Guarded handle entry snapshots := by
  refine ⟨hhistory ▸ hguarded.inRange, hhistory ▸ hguarded.head, fun visits hpops => ?_⟩
  rw [hhistory] at hpops
  obtain ⟨⟨flow, hflow, hbegins⟩, habove⟩ := hguarded.kept visits hpops
  obtain ⟨flow', hflow', hadded⟩ := hadds _ flow hflow
  exact ⟨⟨flow', hflow', hbegins.trans hadded⟩, habove⟩

/-- A record above counts the snapshots that its flow has, which are at least as many. -/
theorem Guarded.remember {id : TaskId} {flow : Flow} {visit : Visit}
    (hguarded : s.Guarded handle entry snapshots) (hvalid : s.history.Valid)
    (hvisit : s.visitOf id = .ok (some (flow, visit))) :
    (s.remember flow visit).Guarded handle entry snapshots := by
  refine ⟨hguarded.inRange.push _ _, ?_, fun visits hpops => ?_⟩
  · exact (Arena.head?_push_of_inRange _ _ _ hguarded.inRange).trans hguarded.head
  · obtain ⟨older, rfl, hbelow⟩ := Arena.Pops.of_push_self hpops hvalid hguarded.inRange
    obtain ⟨⟨found, hfound, hbegins⟩, habove⟩ := hguarded.kept older hbelow
    refine ⟨⟨found, hfound, hbegins⟩, fun above hmem hsame => ?_⟩
    rcases List.mem_cons.mp hmem with rfl | hmem
    · obtain ⟨task, owner, child, -, -, hflow, -, -, rfl⟩ := visitOf_eq_some hvisit
      cases hsame
      rw [hfound] at hflow
      cases hflow
      exact hbegins.length_le
    · exact habove above hmem hsame

/-- Going back to a record above leaves enough snapshots. -/
theorem Guarded.restore {visit : Visit} (hguarded : s.Guarded handle entry snapshots)
    (hhead : s.history.head? = some visit) (target : ScopeId) :
    (s.restore target visit).Guarded handle entry snapshots := by
  have hhistory : (s.restore target visit).history = s.history.pop :=
    (restore_others s target visit).2.2.2.2.1
  have harena := Cursor.arena_pop s.history
  refine ⟨?_, ?_, fun visits hpops => ?_⟩
  · rw [hhistory, harena]
    exact hguarded.inRange
  · rw [hhistory, harena]
    exact hguarded.head
  · rw [hhistory] at hpops
    obtain ⟨⟨flow, hflow, hbegins⟩, habove⟩ :=
      hguarded.kept _ (Cursor.pops_of_pop hhead hpops)
    refine ⟨?_, fun above hmem => habove above (List.mem_cons_of_mem _ hmem)⟩
    rw [flowAt?_restore]
    split_ifs with hsame
    · refine ⟨_, by rw [hflow]; rfl, ?_⟩
      exact List.prefix_take_iff.mpr ⟨hbegins, habove visit List.mem_cons_self hsame⟩
    · exact ⟨flow, hflow, hbegins⟩

theorem Move.guarded (hmove : Move s s') (hsound : s.Sound)
    (hguarded : s.Guarded handle entry snapshots) : s'.Guarded handle entry snapshots := by
  cases hmove with
  | turn hturn =>
      have hturned := turned hturn
      exact hguarded.of_adds hturned.addsSnapshots hturned.cursors.1
  | act hact =>
      have hreturned : ∀ {visit target event}, s.history.head? = some visit →
          ((s.restore target visit).emit event).Guarded handle entry snapshots :=
        fun hhead => (hguarded.restore hhead _).of_adds (.refl _) rfl
      rcases hact.quiet_or_returned with hquiet | ⟨task, visit, target, -, hhead, -, rfl⟩
      · cases hact with
        | recorded hvisit => exact hguarded.remember hsound.history hvisit
        | returned _ hhead => exact hreturned hhead
        | _ => exact hguarded.of_adds hquiet.addsSnapshots rfl
      · exact hreturned hhead
  | breakpoint name => exact hguarded.of_adds (.refl s) rfl

theorem Moves.guarded (hmoves : Relation.ReflTransGen Move s s') (hsound : s.Sound)
    (hguarded : s.Guarded handle entry snapshots) : s'.Guarded handle entry snapshots := by
  induction hmoves with
  | refl => exact hguarded
  | tail hbefore hmove ih => exact hmove.guarded (Moves.sound hbefore hsound) ih

/-- A record that has just been made is guarded. -/
theorem guarded_remember {id : TaskId} {flow : Flow} (hvalid : s.history.Valid)
    (hvisit : s.visitOf id = .ok (some (flow, entry))) :
    (s.remember flow entry).Guarded (s.remember flow entry).history.handle entry
      flow.snapshots := by
  have hpushed : (s.remember flow entry).history = s.history.push entry := rfl
  obtain ⟨task, owner, child, -, -, hflow, -, -, hentry⟩ := visitOf_eq_some hvisit
  refine ⟨Cursor.valid_push _ _, ?_, fun visits hpops => ⟨⟨flow, ?_, List.prefix_rfl⟩, ?_⟩⟩
  · have hhead : (s.history.push entry).head? = some entry := by
      rw [Cursor.head?_eq (Cursor.valid_push _ _), Cursor.toList_push hvalid]
      rfl
    exact hhead
  · rw [hentry]
    exact hflow
  · rw [hpops.eq_nil]
    simp

end

end Session

end Workflow
