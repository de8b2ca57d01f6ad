import Workflow.Proofs.Session.Nesting

/-!
# Soundness

`Session.Sound` collects what holds of a session at every turn: it is wired, its two cursors name
stacks that are there, and the flows being run are nested.  A session starts sound and every move
keeps it so; nothing is said about completion here, because between two turns the innermost flow may
be complete.
-/

namespace Workflow

namespace Session

/-- What holds of a session at every turn. -/
structure Sound (s : Session) : Prop where
  wired : s.Wired
  active : s.active.Valid
  history : s.history.Valid
  nested : s.active.toList = [] ∨ ∃ id, s.Nested id s.active.toList

/-- The flows being run last as long as their cursor and the tasks below the innermost flow do. -/
theorem Sound.nested_of_same {s s' : Session} (hsound : s.Sound) (hactive : s'.active = s.active)
    (hgrows : Grows s s')
    (hbelow : ∀ id other, s.Nested id s.active.toList → other.index < id.index →
      s'.taskAt? other = s.taskAt? other) :
    s'.active.toList = [] ∨ ∃ id, s'.Nested id s'.active.toList := by
  rw [hactive]
  rcases hsound.nested with hempty | ⟨id, hnested⟩
  · exact .inl hempty
  · exact .inr ⟨id, hnested.grows hsound.wired hgrows fun other => hbelow id other hnested⟩

/-- The innermost scope, and its flow. -/
theorem Sound.head {s : Session} {scope : ScopeId} (hsound : s.Sound)
    (hhead : s.active.head? = some scope) :
    ∃ id outer, s.active.toList = scope :: outer ∧ s.Nested id (scope :: outer) ∧
      (s.scope scope).flow = some id := by
  rw [Cursor.head?_eq hsound.active] at hhead
  obtain ⟨outer, hlist⟩ := List.head?_eq_some_iff.mp hhead
  rcases hsound.nested with hempty | ⟨id, hnested⟩
  · rw [hempty] at hlist
    cases hlist
  · rw [hlist] at hnested
    exact ⟨id, outer, hlist, hnested, hnested.flow_scope hsound.wired⟩

/-- The chain from the innermost scope on, where its flow is known. -/
theorem Sound.nested_head {s : Session} {scope : ScopeId} {id : TaskId} (hsound : s.Sound)
    (hhead : s.active.head? = some scope) (hbound : (s.scope scope).flow = some id) :
    ∃ outer, s.active.toList = scope :: outer ∧ s.Nested id (scope :: outer) := by
  obtain ⟨found, outer, hlist, hnested, hfound⟩ := hsound.head hhead
  rw [hbound] at hfound
  cases hfound
  exact ⟨outer, hlist, hnested⟩

theorem Working.nested {s : Session} {scope : ScopeId} {id : TaskId} {task : Task} {flow : Flow}
    (hwork : s.Working scope id task flow) (hsound : s.Sound) :
    ∃ outer, s.active.toList = scope :: outer ∧ s.Nested id (scope :: outer) :=
  hsound.nested_head hwork.head hwork.bound

theorem runChild_others {s s' : Session} {id : TaskId} {child : Child} {task : Task}
    (hrun : s.runChild id child task = (.ok (), s')) :
    s'.active = s.active ∧ s'.history = s.history ∧ s'.settings = s.settings := by
  rcases runChild_cases hrun with ⟨rfl, -⟩ | ⟨ran, heffect, -, rfl⟩
  · exact ⟨rfl, rfl, rfl⟩
  · cases heffect <;> exact ⟨rfl, rfl, rfl⟩

theorem foldChild_others (s : Session) (id : TaskId) (child : Child) :
    (s.foldChild id child).active = s.active ∧ (s.foldChild id child).history = s.history ∧
      (s.foldChild id child).settings = s.settings ∧
      (s.foldChild id child).redirectedTo = s.redirectedTo ∧
      (s.foldChild id child).events = s.events := by
  unfold foldChild
  dsimp only
  split <;> exact ⟨rfl, rfl, rfl, rfl, rfl⟩

theorem concluded_others (s : Session) (id : TaskId) (mark : Bool) :
    (s.concluded id mark).active = s.active ∧ (s.concluded id mark).history = s.history ∧
      (s.concluded id mark).settings = s.settings ∧
      (s.concluded id mark).redirectedTo = s.redirectedTo ∧
      (s.concluded id mark).events = s.events ∧
      (s.concluded id mark).scopes = s.scopes := by
  unfold concluded
  split_ifs <;> exact ⟨rfl, rfl, rfl, rfl, rfl, rfl⟩

/-- A turn changes the flows being run only by entering or leaving one, and never the history. -/
theorem Turned.cursors {s s' : Session} {result : Except Error Turn}
    (hturned : s.Turned result s') : s'.history = s.history ∧ s'.settings = s.settings ∧
      (s'.active = s.active ∨
        (s'.active = s.active.pop ∧ s'.tasks = s.tasks ∧ ∀ scope id task,
          s.active.head? = some scope → (s.scope scope).flow = some id →
            s.taskAt? id = some task → task.complete = true) ∨
        ∃ scope id flow child inner, s.AtChild scope id flow child inner ∧ inner.isFlow = true ∧
          inner.complete = false ∧ s'.active = s.active.push child.scope ∧
          s'.tasks = s.tasks) := by
  cases hturned with
  | idle | stuck | waiting => exact ⟨rfl, rfl, .inl rfl⟩
  | unbound hhead hflow =>
      refine ⟨rfl, rfl, .inr (.inl ⟨rfl, rfl, fun scope id task hhead' hbound => ?_⟩)⟩
      rw [hhead] at hhead'
      cases hhead'
      rw [hflow] at hbound
      cases hbound
  | left _ hhead hbound htask hcomplete hleave =>
      have hdone : ∀ scope id task, s.active.head? = some scope →
          (s.scope scope).flow = some id → s.taskAt? id = some task → task.complete = true := by
        intro scope id task hhead' hbound' htask'
        rw [hhead] at hhead'
        cases hhead'
        rw [hbound] at hbound'
        cases hbound'
        rw [htask] at htask'
        cases htask'
        exact hcomplete
      unfold leave at hleave
      dsimp only at hleave
      split_ifs at hleave <;> cases hleave <;> exact ⟨rfl, rfl, .inr (.inl ⟨rfl, rfl, hdone⟩)⟩
  | entered hat hflow hopen =>
      exact ⟨rfl, rfl, .inr (.inr ⟨_, _, _, _, _, hat, hflow, hopen, rfl, rfl⟩)⟩
  | @settled _ id _ child _ ran _ _ _ hrun =>
      obtain ⟨hactive, hhistory, hsettings⟩ := runChild_others hrun
      obtain ⟨hactive', hhistory', hsettings', -⟩ := foldChild_others ran id child
      exact ⟨hhistory'.trans hhistory, hsettings'.trans hsettings, .inl (hactive'.trans hactive)⟩
  | opened => exact ⟨by simp, by simp, .inl (by simp)⟩
  | @published _ id _ _ mark =>
      obtain ⟨hactive, hhistory, hsettings, -⟩ := concluded_others s id mark
      exact ⟨hhistory, hsettings, .inl hactive⟩
  | @unpublished _ id =>
      obtain ⟨hactive, hhistory, hsettings, -⟩ := concluded_others s id true
      exact ⟨hhistory, hsettings, .inl hactive⟩
  | _ => exact ⟨rfl, rfl, .inl rfl⟩

theorem Turns.settings {count : Nat} {s s' : Session} (hturns : Turns count s s') :
    s'.settings = s.settings := by
  induction hturns with
  | refl => rfl
  | turn hturn _ ih => exact ih.trans (turned hturn).cursors.2.1

/-- A turn keeps a session sound. -/
theorem Turned.sound {s s' : Session} {result : Except Error Turn} (hturned : s.Turned result s')
    (hsound : s.Sound) : s'.Sound := by
  have hwired' := hturned.wired hsound.wired
  have hgrows := hturned.grows
  obtain ⟨hhistory, -, hcursor⟩ := hturned.cursors
  have htasks : s'.tasks = s.tasks → ∀ id other : TaskId, other.index < id.index →
      s'.taskAt? other = s.taskAt? other := by
    intro htasks id other _
    rw [taskAt?, htasks, taskAt?]
  rcases hcursor with hactive | ⟨hactive, hsame, -⟩ | ⟨scope, id, flow, child, inner, hat, hisFlow,
    -, hactive, hsame⟩
  · refine ⟨hwired', hactive ▸ hsound.active, hhistory ▸ hsound.history,
      hsound.nested_of_same hactive hgrows fun id other hnested hother => ?_⟩
    cases hhead : s.active.head? with
    | none =>
        obtain ⟨outer, hlist⟩ := hnested.eq_cons hsound.wired
        rw [Cursor.head?_eq hsound.active, hlist] at hhead
        cases hhead
    | some scope =>
        obtain ⟨found, outer, hlist, hfound, hbound⟩ := hsound.head hhead
        rw [hlist] at hnested
        have hbound' := hnested.flow_scope hsound.wired
        rw [hbound] at hbound'
        cases hbound'
        exact (hturned.sameBelow hsound.wired hhead hbound).tasks other hother
  · refine ⟨hwired', hactive ▸ hsound.active.pop, hhistory ▸ hsound.history, ?_⟩
    rw [hactive, Cursor.toList_pop hsound.active]
    rcases hsound.nested with hempty | ⟨id, hnested⟩
    · exact .inl (by rw [hempty]; rfl)
    · obtain ⟨outer, hlist⟩ := hnested.eq_cons hsound.wired
      rw [hlist] at hnested ⊢
      cases outer with
      | nil => exact .inl rfl
      | cons scope outer =>
          obtain ⟨other, hrest⟩ := hnested.of_suffix (List.suffix_cons _ (scope :: outer))
          exact .inr ⟨other, hrest.grows hsound.wired hgrows (htasks hsame other)⟩
  · obtain ⟨task, hwork⟩ := hat.working
    obtain ⟨outer, hlist, hnested⟩ := hwork.nested hsound
    refine ⟨hwired', hactive ▸ Cursor.valid_push _ _, hhistory ▸ hsound.history,
      .inr ⟨child.task, ?_⟩⟩
    rw [hactive, Cursor.toList_push hsound.active, hlist]
    exact (Nested.child hnested hwork.here hwork.incomplete hwork.runs hat.current hat.inner
      hisFlow).grows hsound.wired hgrows (htasks hsame _)

theorem Act.wired {s s' : Session} {id : TaskId} (hact : Act id s s') (hsound : s.Sound) :
    s'.Wired := by
  have hwired := hsound.wired
  cases hact with
  | screenSet _ htask hscreen =>
      refine hwired.modifyTask id (fun task h => ?_) fun task flow h hruns => ?_
      · rw [htask] at h
        cases h
        refine ⟨rfl, rfl, ?_⟩
        simp [Task.isFlow, Task.flow?, hscreen]
      · cases hruns
  | resultMerged patch => exact hwired.modifyScope _ (Scope.keepsBinding_mergeResult patch)
  | patched patch =>
      exact hwired.modifyScope _
        ((Scope.keepsBinding_mergeResult patch).comp (Scope.keepsBinding_mergeState patch))
  | completed => exact hwired.complete id
  | recorded | refused => exact hwired.of_same rfl rfl fun _ => rfl
  | returned htask hentry htarget =>
      rcases hsound.nested with hempty | ⟨innermost, hnested⟩
      · rw [hempty] at htarget
        cases htarget
      · obtain ⟨-, outer, hsuffix, hflow⟩ := hnested.of_returnTarget? hwired htarget
        exact (restored hwired hsound.active hnested hsuffix hflow).wired.of_same rfl rfl
          fun _ => rfl

/-- What every act but going back leaves alone: the flows, and all scopes but that of the task. -/
structure Quiet (id : TaskId) (s s' : Session) : Prop where
  active : s'.active = s.active
  settings : s'.settings = s.settings
  redirectedTo : s'.redirectedTo = s.redirectedTo
  tasks : s'.tasks.size = s.tasks.size
  flows : ∀ {other task}, s.taskAt? other = some task → task.isFlow = true →
    s'.taskAt? other = some task
  scopes : ∀ scope, s'.scopeAt? scope = s.scopeAt? scope ∨
    ∃ task, s.taskAt? id = some task ∧ task.takesInput = true ∧ task.scope = scope

theorem Quiet.of_same {id : TaskId} {s s' : Session} (hactive : s'.active = s.active)
    (hsettings : s'.settings = s.settings) (hredirectedTo : s'.redirectedTo = s.redirectedTo)
    (htasks : s'.tasks = s.tasks) (hscopes : s'.scopes = s.scopes) : Quiet id s s' where
  active := hactive
  settings := hsettings
  redirectedTo := hredirectedTo
  tasks := by rw [htasks]
  flows := by
    intro other task htask _
    rw [taskAt?, htasks]
    exact htask
  scopes := by
    intro scope
    rw [scopeAt?, hscopes]
    exact .inl rfl

theorem Quiet.flowAt? {id owner : TaskId} {s s' : Session} {flow : Flow} (hquiet : Quiet id s s')
    (hflow : s.flowAt? owner = some flow) : s'.flowAt? owner = some flow := by
  obtain ⟨task, htask, hruns⟩ := flowAt?_eq_some_iff.mp hflow
  exact flowAt?_eq_some_iff.mpr ⟨task, hquiet.flows htask (by rw [Task.isFlow, hruns]; rfl), hruns⟩

/-- What is quiet changes no flow, and opens none. -/
theorem Quiet.flowAt?_eq {id : TaskId} {s s' : Session} (hquiet : Quiet id s s')
    (hgrows : Grows s s') (owner : TaskId) : s'.flowAt? owner = s.flowAt? owner := by
  cases hflow : s.flowAt? owner with
  | some flow => exact hquiet.flowAt? hflow
  | none =>
      refine Option.eq_none_iff_forall_ne_some.mpr fun flow hflow' => ?_
      obtain ⟨task', htask', hruns⟩ := flowAt?_eq_some_iff.mp hflow'
      have hlt : owner.index < s.tasks.size := hquiet.tasks ▸ taskAt?_lt htask'
      obtain ⟨before, htask, hskeleton⟩ := hgrows.exists_before htask' hlt
      have hisFlow := Task.isFlow_of_skeleton hskeleton
      rw [Task.isFlow, hruns, Task.isFlow] at hisFlow
      rw [Session.flowAt?, htask, Option.bind_some] at hflow
      rw [hflow] at hisFlow
      cases hisFlow

theorem quiet_modifyScope {id : TaskId} {s : Session} {task : Task}
    (htask : s.taskAt? id = some task) (hinput : task.takesInput = true)
    (change : Scope → Scope) : Quiet id s (s.modifyScope task.scope change) where
  active := rfl
  settings := rfl
  redirectedTo := rfl
  tasks := rfl
  flows := fun h _ => h
  scopes := by
    intro scope
    by_cases hscope : task.scope = scope
    · exact .inr ⟨task, htask, hinput, hscope⟩
    · exact .inl (scopeAt?_modifyScope_of_ne s change hscope)

theorem quiet_modifyTask {id : TaskId} {s : Session} {task : Task}
    (htask : s.taskAt? id = some task) (hinput : task.takesInput = true) (change : Task → Task) :
    Quiet id s (s.modifyTask id change) where
  active := rfl
  settings := rfl
  redirectedTo := rfl
  tasks := by simp
  flows := by
    intro other found hfound hisFlow
    have hne : id ≠ other := by
      rintro rfl
      rw [htask] at hfound
      cases hfound
      rw [Task.isFlow_of_takesInput hinput] at hisFlow
      cases hisFlow
    rw [taskAt?_modifyTask, if_neg hne, hfound]
  scopes := fun _ => .inl rfl

/-- An act goes back, or it is quiet. -/
theorem Act.quiet_or_returned {s s' : Session} {id : TaskId} (hact : Act id s s') :
    Quiet id s s' ∨ ∃ task entry target, s.taskAt? id = some task ∧
      s.history.head? = some entry ∧
      s.returnTarget? entry.flow task.owner s.active.toList = some target ∧
      s' = (s.restore target entry).emit (.backAsked task.name true) := by
  cases hact with
  | screenSet _ htask hscreen =>
      exact .inl (quiet_modifyTask htask (Task.takesInput_of_screen hscreen) _)
  | resultMerged _ htask hinput | patched _ htask hinput =>
      exact .inl (quiet_modifyScope htask hinput _)
  | completed htask hinput =>
      exact .inl (quiet_modifyTask htask hinput _)
  | recorded | refused => exact .inl (.of_same rfl rfl rfl rfl rfl)
  | returned htask hentry htarget => exact .inr ⟨_, _, _, htask, hentry, htarget, rfl⟩

/-- An act opens no task. -/
theorem Act.tasks_size {s s' : Session} {id : TaskId} (hact : Act id s s') :
    s'.tasks.size = s.tasks.size := by
  rcases hact.quiet_or_returned with hquiet | ⟨task, entry, target, -, -, -, rfl⟩
  · exact hquiet.tasks
  · exact (restore_others s target entry).2.2.2.2.2.2.2

theorem Acts.tasks_size {s s' : Session} {id : TaskId} (hacts : Acts id s s') :
    s'.tasks.size = s.tasks.size := by
  induction hacts with
  | refl => rfl
  | tail _ hact ih => exact hact.tasks_size.trans ih

/-- The chain consists of flows, so what leaves the flows alone leaves the chain. -/
theorem Nested.of_flows {s s' : Session} {id : TaskId} {scopes : List ScopeId}
    (hnested : s.Nested id scopes) (hwired : s.Wired) (hgrows : Grows s s')
    (hflows : ∀ {other task}, s.taskAt? other = some task → task.isFlow = true →
      s'.taskAt? other = some task) : s'.Nested id scopes := by
  induction hnested with
  | root =>
      rw [← hgrows.root, ← hgrows.rootScope hwired]
      exact .root
  | child _ htask hopen hflow hcurrent hinner hisFlow ih =>
      have htask' := hflows htask (by rw [Task.isFlow, hflow]; rfl)
      exact .child ih htask' hopen hflow hcurrent (hflows hinner hisFlow) hisFlow

/-- An act keeps a session sound. -/
theorem Act.sound {s s' : Session} {id : TaskId} (hact : Act id s s') (hsound : s.Sound) :
    s'.Sound := by
  have hwired' := hact.wired hsound
  have hgrows := hact.grows
  have hhistory : s'.history.Valid := by
    cases hact with
    | recorded => exact Cursor.valid_push _ _
    | returned =>
        change (Session.restore s _ _).history.Valid
        rw [(restore_others s _ _).2.2.2.2.1]
        exact hsound.history.pop
    | _ => exact hsound.history
  rcases hact.quiet_or_returned with hquiet | ⟨task, entry, target, -, -, htarget, rfl⟩
  · refine ⟨hwired', hquiet.active ▸ hsound.active, hhistory, ?_⟩
    rw [hquiet.active]
    rcases hsound.nested with hempty | ⟨innermost, hnested⟩
    · exact .inl hempty
    · exact .inr ⟨innermost, hnested.of_flows hsound.wired hgrows hquiet.flows⟩
  · rcases hsound.nested with hempty | ⟨innermost, hnested⟩
    · rw [hempty] at htarget
      cases htarget
    · obtain ⟨-, outer, hsuffix, hflow⟩ := hnested.of_returnTarget? hsound.wired htarget
      have hrestored := restored hsound.wired hsound.active hnested hsuffix hflow
      refine ⟨hwired', hrestored.valid, hhistory, .inr ⟨entry.flow, ?_⟩⟩
      change Session.Nested _ _ (s.restore target entry).active.toList
      rw [hrestored.active]
      exact hflow.grows hsound.wired hgrows hrestored.same.tasks

theorem Alike.wired {s s' : Session} (halike : Alike s s') (hwired : s.Wired) : s'.Wired := by
  refine hwired.of_same halike.tasks halike.grows.root fun scope => ?_
  rw [bindingAt?, scopeAt?, halike.scopes]
  rfl

theorem Alike.sound {s s' : Session} (halike : Alike s s') (hsound : s.Sound) : s'.Sound where
  wired := halike.wired hsound.wired
  active := halike.active ▸ hsound.active
  history := halike.history ▸ hsound.history
  nested := by
    refine hsound.nested_of_same halike.active halike.grows fun id other _ _ => ?_
    rw [taskAt?, halike.tasks, taskAt?]

theorem Move.sound {s s' : Session} (hmove : Move s s') (hsound : s.Sound) : s'.Sound := by
  cases hmove with
  | turn hturn => exact (turned hturn).sound hsound
  | act hact => exact hact.sound hsound
  | breakpoint name => exact (alike_setBreakpoint s name).sound hsound

theorem Moves.sound {s s' : Session} (hmoves : Relation.ReflTransGen Move s s')
    (hsound : s.Sound) : s'.Sound := by
  induction hmoves with
  | refl => exact hsound
  | tail _ hmove ih => exact hmove.sound ih

theorem Run.sound {s s' : Session} (hrun : Run s s') (hsound : s.Sound) : s'.Sound :=
  Moves.sound hrun.moves hsound

/-- A session starts sound. -/
theorem initial_sound (document : Document) (settings : SessionSettings) (ownsEvents : Bool)
    (flowSettings : FlowSettings) :
    (initial document settings ownsEvents flowSettings).Sound := by
  have htask : ∀ {id task},
      (initial document settings ownsEvents flowSettings).taskAt? id = some task →
        id = ⟨0⟩ ∧ task = rootTask document flowSettings := by
    intro id task h
    obtain ⟨index⟩ := id
    cases index with
    | zero => exact ⟨rfl, (Option.some.inj h).symm⟩
    | succ index => cases h
  have hbinding : ∀ {scope binding},
      (initial document settings ownsEvents flowSettings).bindingAt? scope = some binding →
        scope = ⟨0⟩ ∧ binding = ⟨none, some ⟨0⟩, some ⟨0⟩⟩ := by
    intro scope binding h
    obtain ⟨index⟩ := scope
    cases index with
    | zero => exact ⟨rfl, (Option.some.inj h).symm⟩
    | succ index => cases h
  refine ⟨⟨?_, ?_, ?_, ?_, ?_, ?_, ?_⟩, Cursor.valid_push _ _, Cursor.valid_empty, .inr ⟨⟨0⟩, ?_⟩⟩
  · intro id task h
    obtain ⟨rfl, rfl⟩ := htask h
    exact ⟨none, rfl⟩
  · intro scope binding id h htaken
    obtain ⟨rfl, rfl⟩ := hbinding h
    cases htaken
    exact ⟨_, rfl, rfl⟩
  · intro scope binding h hfree
    obtain ⟨rfl, rfl⟩ := hbinding h
    cases hfree
  · intro id task owner h howner
    obtain ⟨rfl, rfl⟩ := htask h
    cases howner
  · exact ⟨_, rfl, rfl, rfl⟩
  · intro id task h _
    exact (htask h).1
  · intro id flow h
    obtain ⟨task, h, hruns⟩ := flowAt?_eq_some_iff.mp h
    obtain ⟨rfl, rfl⟩ := htask h
    cases hruns
    exact linked_of_current_eq_none rfl (by simp)
  · exact .root

theorem Reachable.sound {s : Session} (hreach : s.Reachable) : s.Sound := by
  obtain ⟨document, settings, ownsEvents, start, hstart, hrun⟩ := hreach
  obtain ⟨declared, -, rfl⟩ := start_eq hstart
  exact hrun.sound (initial_sound document settings ownsEvents declared.settings)

end Session

end Workflow
