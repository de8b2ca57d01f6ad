import Workflow.Proofs.Session.Frames
import Workflow.Proofs.Stack.Contents

/-!
# Flows inside flows

The scopes of the flows being run are a chain from the innermost flow to the root: every flow is the
current child of the flow around it, `Session.Nested`.  A turn works at the inner end of the chain,
and going back cuts it off at the flow of the record, so the rest of the chain lasts.
-/

namespace Workflow

namespace Session

/-- The flows being run, by their scopes, from the innermost flow `id` on: each is the current child
of the flow around it, which is not complete, and the outermost is the root. -/
inductive Nested (s : Session) : TaskId → List ScopeId → Prop
  | root : Nested s s.root [s.rootScope]
  | child {id : TaskId} {scopes : List ScopeId} {task : Task} {flow : Flow} {child : Child}
      {inner : Task} (houter : Nested s id scopes) (htask : s.taskAt? id = some task)
      (hopen : task.complete = false) (hflow : task.flow? = some flow)
      (hcurrent : flow.current = some child) (hinner : s.taskAt? child.task = some inner)
      (hisFlow : inner.isFlow = true) : Nested s child.task (child.scope :: scopes)

section

variable {s : Session} {id : TaskId} {scopes : List ScopeId}

/-- The child of a flow, with its place. -/
theorem Wired.child_places (hwired : s.Wired) {flow : Flow} {child : Child} {inner : Task}
    (hflow : s.flowAt? id = some flow) (hcurrent : flow.current = some child)
    (hinner : s.taskAt? child.task = some inner) :
    inner.scope = child.scope ∧ inner.owner = some id ∧ id.index < child.task.index ∧
      (s.scopeOf id).index < child.scope.index := by
  have hlinked := hwired.linked hflow
  obtain ⟨found, hfound, hscope, howner⟩ := hlinked.child hcurrent
  rw [hinner] at hfound
  cases hfound
  exact ⟨hscope, howner, (hwired.owned hinner howner).1,
    Nat.lt_of_le_of_lt hlinked.le_around (hlinked.inside hcurrent)⟩

theorem Nested.isFlow (hnested : s.Nested id scopes) (hwired : s.Wired) :
    ∃ task, s.taskAt? id = some task ∧ task.isFlow = true := by
  cases hnested with
  | root =>
      obtain ⟨task, htask, hflow, -⟩ := hwired.rooted
      exact ⟨task, htask, hflow⟩
  | child _ _ _ _ _ hinner hisFlow => exact ⟨_, hinner, hisFlow⟩

/-- The innermost scope is that of the innermost flow. -/
theorem Nested.eq_cons (hnested : s.Nested id scopes) (hwired : s.Wired) :
    ∃ outer, scopes = s.scopeOf id :: outer := by
  cases hnested with
  | root => exact ⟨[], rfl⟩
  | @child id scopes task flow child inner _ htask _ hflow hcurrent hinner _ =>
      refine ⟨scopes, ?_⟩
      have hplaces := hwired.child_places (flowAt?_eq_some_iff.mpr ⟨task, htask, hflow⟩) hcurrent
        hinner
      rw [scopeOf_eq_of_taskAt? hinner, hplaces.1]

theorem Nested.scopeOf_eq {scope : ScopeId} {outer : List ScopeId}
    (hnested : s.Nested id (scope :: outer)) (hwired : s.Wired) : s.scopeOf id = scope := by
  obtain ⟨outer', heq⟩ := hnested.eq_cons hwired
  exact (List.cons.inj heq).1.symm

theorem Nested.flow_scope {scope : ScopeId} {outer : List ScopeId}
    (hnested : s.Nested id (scope :: outer)) (hwired : s.Wired) :
    (s.scope scope).flow = some id := by
  obtain ⟨task, htask, hflow⟩ := hnested.isFlow hwired
  have hscope := hnested.scopeOf_eq hwired
  rw [scopeOf_eq_of_taskAt? htask] at hscope
  rw [← hscope]
  exact hwired.flow_scope htask hflow

/-- Scopes further out are older. -/
theorem Nested.lt (hnested : s.Nested id scopes) (hwired : s.Wired) :
    ∀ scope ∈ scopes.tail, scope.index < (s.scopeOf id).index := by
  induction hnested with
  | root => simp
  | @child id scopes task flow child inner houter htask _ hflow hcurrent hinner _ ih =>
      obtain ⟨hscope, -, -, hlt⟩ := hwired.child_places
        (flowAt?_eq_some_iff.mpr ⟨task, htask, hflow⟩) hcurrent hinner
      obtain ⟨outer, rfl⟩ := houter.eq_cons hwired
      rw [scopeOf_eq_of_taskAt? hinner, hscope]
      intro scope hmem
      rcases List.mem_cons.mp hmem with rfl | hmem
      · exact hlt
      · exact Nat.lt_trans (ih scope hmem) hlt

/-- The chain from any flow on. -/
theorem Nested.of_suffix {scope : ScopeId} {outer : List ScopeId} (hnested : s.Nested id scopes)
    (hsuffix : scope :: outer <:+ scopes) : ∃ other, s.Nested other (scope :: outer) := by
  induction hnested with
  | root =>
      rcases List.suffix_cons_iff.mp hsuffix with heq | hsuffix
      · rw [heq]
        exact ⟨s.root, .root⟩
      · simp at hsuffix
  | @child id scopes task flow child inner houter htask hopen hflow hcurrent hinner hisFlow ih =>
      rcases List.suffix_cons_iff.mp hsuffix with heq | hsuffix
      · rw [heq]
        exact ⟨child.task, .child houter htask hopen hflow hcurrent hinner hisFlow⟩
      · exact ih hsuffix

theorem Grows.rootScope {s' : Session} (hgrows : Grows s s') (hwired : s.Wired) :
    s'.rootScope = s.rootScope := by
  obtain ⟨task, htask, -⟩ := hwired.rooted
  rw [Session.rootScope, hgrows.root]
  exact hgrows.scopeOf htask

/-- The chain lasts as long as the tasks below its inner end do. -/
theorem Nested.grows {s' : Session} (hnested : s.Nested id scopes) (hwired : s.Wired)
    (hgrows : Grows s s')
    (hbelow : ∀ other, other.index < id.index → s'.taskAt? other = s.taskAt? other) :
    s'.Nested id scopes := by
  induction hnested with
  | root =>
      rw [← hgrows.root, ← hgrows.rootScope hwired]
      exact .root
  | @child id scopes task flow child inner houter htask hopen hflow hcurrent hinner hisFlow ih =>
      obtain ⟨-, -, hid, -⟩ := hwired.child_places
        (flowAt?_eq_some_iff.mpr ⟨task, htask, hflow⟩) hcurrent hinner
      obtain ⟨inner', hinner', hskeleton, -⟩ := hgrows.tasks hinner
      have houter' := ih fun other h => hbelow other (Nat.lt_trans h hid)
      exact .child houter' ((hbelow id hid).trans htask) hopen hflow hcurrent hinner'
        ((Task.isFlow_of_skeleton hskeleton).trans hisFlow)

/-- There is one way to be nested: the chain is that of the owners. -/
theorem Nested.unique {s' : Session} {scopes' : List ScopeId} (hnested : s.Nested id scopes)
    (hnested' : s'.Nested id scopes') (hwired : s.Wired) (hwired' : s'.Wired)
    (hgrows : Grows s s') : scopes' = scopes := by
  induction hnested generalizing scopes' with
  | root =>
      generalize hroot : s.root = root at hnested'
      cases hnested' with
      | root => rw [hgrows.rootScope hwired]
      | child houter htask _ hflow hcurrent hinner hisFlow =>
          obtain ⟨found, hfound, -, howner⟩ := hwired'.rooted
          rw [hgrows.root, hroot, hinner] at hfound
          cases hfound
          have hplaces := hwired'.child_places (flowAt?_eq_some_iff.mpr ⟨_, htask, hflow⟩) hcurrent
            hinner
          rw [hplaces.2.1] at howner
          cases howner
  | @child id scopes task flow child inner houter htask hopen hflow hcurrent hinner hisFlow ih =>
      obtain ⟨hscope, howner, -, -⟩ := hwired.child_places
        (flowAt?_eq_some_iff.mpr ⟨task, htask, hflow⟩) hcurrent hinner
      obtain ⟨inner', hinner', hskeleton, -⟩ := hgrows.tasks hinner
      generalize hself : child.task = self at hnested'
      cases hnested' with
      | root =>
          obtain ⟨found, hfound, -, hnone⟩ := hwired'.rooted
          rw [← hself, hinner'] at hfound
          cases hfound
          rw [Task.owner_of_skeleton hskeleton, howner] at hnone
          cases hnone
      | child houter' htask' _ hflow' hcurrent' hinner'' _ =>
          rw [← hself, hinner'] at hinner''
          cases hinner''
          obtain ⟨hscope', howner', -, -⟩ := hwired'.child_places
            (flowAt?_eq_some_iff.mpr ⟨_, htask', hflow'⟩) hcurrent' (hself ▸ hinner')
          rw [Task.owner_of_skeleton hskeleton, howner] at howner'
          cases howner'
          rw [← hscope', ← hscope, Task.scope_of_skeleton hskeleton, ih houter']

/-! ## Going back along the chain -/

/-- A request to go back is handled by a flow on the chain, and only for the innermost flow. -/
theorem Nested.of_returnTarget? {owner : TaskId} {requester : Option TaskId} {target : ScopeId}
    (hnested : s.Nested id scopes) (hwired : s.Wired)
    (htarget : s.returnTarget? owner requester scopes = some target) :
    requester = some id ∧ ∃ outer, target :: outer <:+ scopes ∧
      s.Nested owner (target :: outer) := by
  induction hnested generalizing requester with
  | root =>
      obtain ⟨task, htask, hflow, -⟩ := hwired.rooted
      have hbound : (s.scope s.rootScope).flow = some s.root := by
        rw [rootScope, scopeOf_eq_of_taskAt? htask]
        exact hwired.flow_scope htask hflow
      rw [returnTarget?, hbound] at htarget
      dsimp only at htarget
      split_ifs at htarget with hrequester howner
      · cases htarget
        exact ⟨(not_not.mp hrequester).symm, [], List.suffix_refl _, howner ▸ .root⟩
      · cases htarget
  | @child id scopes task flow child inner houter htask hopen hflow hcurrent hinner hisFlow ih =>
      have hplaces := hwired.child_places (flowAt?_eq_some_iff.mpr ⟨task, htask, hflow⟩) hcurrent
        hinner
      have hbound : (s.scope child.scope).flow = some child.task := by
        rw [← hplaces.1]
        exact hwired.flow_scope hinner hisFlow
      rw [returnTarget?, hbound] at htarget
      dsimp only at htarget
      split_ifs at htarget with hrequester howner
      · cases htarget
        exact ⟨(not_not.mp hrequester).symm, scopes, List.suffix_refl _,
          howner ▸ .child houter htask hopen hflow hcurrent hinner hisFlow⟩
      · obtain ⟨-, outer, hsuffix, hfound⟩ := ih htarget
        exact ⟨(not_not.mp hrequester).symm, outer, hsuffix.trans (List.suffix_cons _ _), hfound⟩

/-- What a flow has open inside lies further in than its own scope. -/
theorem Wired.lt_of_mem_insideOf (hwired : s.Wired) {scope : ScopeId}
    (hscope : scope ∈ s.insideOf id) : (s.scopeOf id).index < scope.index := by
  unfold insideOf at hscope
  cases hflow : s.flowAt? id with
  | none =>
      rw [hflow] at hscope
      cases hscope
  | some flow =>
      rw [hflow] at hscope
      have hlinked := hwired.linked hflow
      rcases Flow.mem_inside.mp hscope with ⟨child, hcurrent, rfl⟩ | hpass
      · exact Nat.lt_of_le_of_lt hlinked.le_around (hlinked.inside hcurrent)
      · exact (hlinked.pass hpass).2

/-- Closing what is open inside a flow leaves its scope and everything below. -/
theorem Wired.closeInside_below (hwired : s.Wired) {other : ScopeId}
    (hother : other.index ≤ (s.scopeOf id).index) :
    (s.closeInside id).scopeAt? other = s.scopeAt? other := by
  rw [closeInside_eq, scopeAt?_closeAll, if_neg]
  intro hinside
  exact Nat.not_lt.mpr hother (hwired.lt_of_mem_insideOf hinside)

theorem bindingAt?_closeInside (s : Session) (id : TaskId) (scope : ScopeId) :
    (s.closeInside id).bindingAt? scope = s.bindingAt? scope := by
  rw [closeInside_eq, bindingAt?_closeAll]

theorem Wired.closeInside (hwired : s.Wired) (id : TaskId) : (s.closeInside id).Wired := by
  have hothers := closeInside_others s id
  exact hwired.of_same hothers.1 hothers.2.2.2.1 (bindingAt?_closeInside s id)

theorem Wired.abandon (hwired : s.Wired) (scope : ScopeId) : (s.abandon scope).Wired := by
  have hleft : Session.Wired { s with active := s.active.pop } :=
    hwired.of_same rfl rfl fun _ => rfl
  unfold Session.abandon
  dsimp only
  refine Wired.closeScope ?_ scope
  split
  · exact hleft.closeInside _
  · exact hleft

/-- Abandoning a flow leaves everything below its scope. -/
theorem Nested.abandon_below {scope : ScopeId} {outer : List ScopeId}
    (hnested : s.Nested id (scope :: outer)) (hwired : s.Wired) {other : ScopeId}
    (hother : other.index < scope.index) :
    (s.abandon scope).scopeAt? other = s.scopeAt? other := by
  have hleft : Session.Wired { s with active := s.active.pop } :=
    hwired.of_same rfl rfl fun _ => rfl
  have hscope := hnested.scopeOf_eq hwired
  have hbound : (Session.scope { s with active := s.active.pop } scope).flow = some id :=
    hnested.flow_scope hwired
  have hne : scope ≠ other := (ScopeId.ne_of_lt hother).symm
  have hle : other.index ≤ (Session.scopeOf { s with active := s.active.pop } id).index := by
    change other.index ≤ (s.scopeOf id).index
    rw [hscope]
    exact Nat.le_of_lt hother
  simp only [Session.abandon, hbound]
  rw [scopeAt?_closeScope_of_ne _ hne]
  exact hleft.closeInside_below hle

theorem taskAt?_abandon (s : Session) (scope : ScopeId) (id : TaskId) :
    (s.abandon scope).taskAt? id = s.taskAt? id := by
  rw [taskAt?, (abandon_others s scope).1]
  rfl

/-- What unwinding to a flow on the chain comes to: that flow is the innermost, and its scope and
everything below are as they were. -/
structure Unwound (s s' : Session) (target : ScopeId) (outer : List ScopeId) : Prop where
  wired : s'.Wired
  valid : s'.active.Valid
  active : s'.active.toList = target :: outer
  tasks : s'.tasks = s.tasks
  below : ∀ other, other.index ≤ target.index → s'.scopeAt? other = s.scopeAt? other

theorem unwound {target : ScopeId} {outer : List ScopeId} (hwired : s.Wired)
    (hvalid : s.active.Valid) (hscopes : s.active.toList = scopes) (hnested : s.Nested id scopes)
    (hsuffix : target :: outer <:+ scopes) :
    Unwound s (unwindTo target scopes s) target outer := by
  induction scopes generalizing s id with
  | nil => simp at hsuffix
  | cons scope scopes ih =>
      have hscope := hnested.scopeOf_eq hwired
      have hlt := hnested.lt hwired
      rw [unwindTo]
      rcases List.suffix_cons_iff.mp hsuffix with heq | hsuffix'
      · obtain ⟨rfl, rfl⟩ := List.cons.inj heq
        rw [if_pos rfl]
        exact ⟨hwired, hvalid, hscopes, rfl, fun _ _ => rfl⟩
      · have hbelow : target.index < scope.index := by
          rw [← hscope]
          exact hlt target (hsuffix'.mem List.mem_cons_self)
        have hne : scope ≠ target := (ScopeId.ne_of_lt hbelow).symm
        rw [if_neg hne]
        obtain ⟨other, hrest⟩ : ∃ other, s.Nested other scopes := by
          cases scopes with
          | nil => simp at hsuffix'
          | cons next rest => exact hnested.of_suffix (List.suffix_cons _ _)
        have hactive := (abandon_others s scope).2.2.2.2.1
        have hunwound := ih (hwired.abandon scope) (by rw [hactive]; exact hvalid.pop)
          (by rw [hactive, Cursor.toList_pop hvalid, hscopes]; rfl)
          (hrest.grows hwired (.abandon (.refl s) scope)
            fun other _ => taskAt?_abandon s scope other)
          hsuffix'
        refine ⟨hunwound.wired, hunwound.valid, hunwound.active,
          hunwound.tasks.trans (abandon_others s scope).1, fun other hother => ?_⟩
        rw [hunwound.below other hother]
        exact hnested.abandon_below hwired (Nat.lt_of_le_of_lt hother hbelow)

/-- What reopening a pass comes to: a new scope inside that of the flow, with the trees of the
pass. -/
structure PassReopened (s s' : Session) (target : ScopeId) (trees : Option (Value × Value))
    (pass : Option ScopeId) : Prop where
  wired : s'.Wired
  old : ∀ other, other.index < s.scopes.size → s'.scopeAt? other = s.scopeAt? other
  bound : ∀ place, pass = some place → s'.bindingAt? place = some ⟨some target, none, none⟩ ∧
    place.index = s.scopes.size
  none : trees = none → pass = none
  trees : ∀ found, trees = some found → ∃ place scope, pass = some place ∧
    s'.scopeAt? place = some scope ∧ scope.state = found.1 ∧
      scope.result = Value.empty.merge found.2

theorem Wired.reopenPass (hwired : s.Wired) (target : ScopeId) (trees : Option (Value × Value)) :
    PassReopened s (s.reopenPass target trees).2 target trees (s.reopenPass target trees).1 := by
  cases trees with
  | none => exact ⟨hwired, fun _ _ => rfl, by simp [Session.reopenPass], fun _ => rfl, by simp⟩
  | some trees =>
      have hopened := hwired.openScope trees.1 (some target)
      have hplace : ((s.openScope trees.1 (some target)).modifyScope s.nextScope
          (·.mergeResult trees.2)).scopeAt? s.nextScope =
          some ((Scope.opened trees.1 (some target)).mergeResult trees.2) := by
        rw [scopeAt?_modifyScope_self, scopeAt?_openScope, if_pos rfl]
        rfl
      refine ⟨hopened.modifyScope _ (Scope.keepsBinding_mergeResult _), ?_, ?_, by simp, ?_⟩
      · intro other hother
        have hne : s.nextScope ≠ other := (ScopeId.ne_of_lt hother).symm
        exact (scopeAt?_modifyScope_of_ne _ _ hne).trans
          ((scopeAt?_openScope s _ _ other).trans (if_neg (Ne.symm hne)))
      · intro place hpass
        cases hpass
        exact ⟨bindingAt?_eq_some_iff.mpr ⟨_, hplace, rfl⟩, rfl⟩
      · intro found hfound
        cases hfound
        exact ⟨s.nextScope, _, rfl, hplace, rfl, rfl⟩

/-- What restoring a record comes to: its flow is the innermost and stands at the mark, the scope of
the flow has the trees of the record, and so has a new pass if there was one. -/
structure Restored (s s' : Session) (target : ScopeId) (entry : Visit) (outer : List ScopeId) :
    Prop where
  wired : s'.Wired
  valid : s'.active.Valid
  active : s'.active.toList = target :: outer
  same : SameBelow s s' entry.flow target
  trees : s'.scopeAt? target = (s.scopeAt? target).map (·.reopen entry.state entry.result)
  flow : ∃ pass, (∀ other, s'.taskAt? other =
      if entry.flow = other then (s.taskAt? other).map (Task.mapFlow (·.returnTo entry.mark pass))
      else s.taskAt? other) ∧
    (entry.pass = none → pass = none) ∧
    ∀ trees, entry.pass = some trees → ∃ place scope, pass = some place ∧
      s'.scopeAt? place = some scope ∧ scope.state = trees.1 ∧
        scope.result = Value.empty.merge trees.2

theorem restored {entry : Visit} {target : ScopeId} {outer : List ScopeId} (hwired : s.Wired)
    (hvalid : s.active.Valid) (hnested : s.Nested id s.active.toList)
    (hsuffix : target :: outer <:+ s.active.toList)
    (hflow : s.Nested entry.flow (target :: outer)) :
    Restored s (s.restore target entry) target entry outer := by
  have hunwound := unwound hwired hvalid rfl hnested hsuffix
  have htarget := hflow.scopeOf_eq hwired
  obtain ⟨task, htask, hisFlow⟩ := hflow.isFlow hwired
  have hreopened : (s.reopened target entry).Wired :=
    (hunwound.wired.closeInside entry.flow).modifyScope target (Scope.keepsBinding_reopen _ _)
  have hscopeOf : (s.reopened target entry).scopeOf entry.flow = target := by
    rw [scopeOf_eq, taskAt?, (reopened_others s target entry).1]
    exact htarget
  have hbelow : ∀ other, other.index ≤ target.index →
      ((unwindTo target s.active.toList s).closeInside entry.flow).scopeAt? other =
        s.scopeAt? other := by
    intro other hother
    have hle : other.index ≤
        ((unwindTo target s.active.toList s).scopeOf entry.flow).index := by
      rw [scopeOf_eq, taskAt?, hunwound.tasks, ← taskAt?, ← scopeOf_eq, htarget]
      exact hother
    rw [hunwound.wired.closeInside_below hle, hunwound.below other hother]
  have hreopenedBelow : ∀ other, other.index < target.index →
      (s.reopened target entry).scopeAt? other = s.scopeAt? other := by
    intro other hother
    have hne : target ≠ other := (ScopeId.ne_of_lt hother).symm
    rw [reopened, scopeAt?_modifyScope_of_ne _ _ hne]
    exact hbelow other (Nat.le_of_lt hother)
  have hreopenedTarget : (s.reopened target entry).scopeAt? target =
      (s.scopeAt? target).map (·.reopen entry.state entry.result) := by
    rw [reopened, scopeAt?_modifyScope_self, hbelow target (Nat.le_refl _)]
  have hthere : target.index < (s.reopened target entry).scopes.size := by
    rw [(reopened_others s target entry).2.2.2.2.2.2.2.2, ← htarget]
    exact hwired.scopeOf_lt htask
  have hpass := hreopened.reopenPass target entry.pass
  have hscope : ((s.reopened target entry).reopenPass target entry.pass).2.scopeOf entry.flow =
      target := by
    rw [scopeOf_eq, taskAt?, (reopenPass_others _ target entry.pass).1]
    exact hscopeOf
  have hrewound : (s.rewound target entry).Wired := by
    apply hpass.wired.modifyFlow
    intro flow _
    apply linked_of_current_eq_none rfl
    intro place hplace
    obtain ⟨hbound, hnew⟩ := hpass.bound place hplace
    rw [hscope]
    exact ⟨hbound, by omega⟩
  have hscopes : ∀ other, (s.restore target entry).scopeAt? other =
      ((s.reopened target entry).reopenPass target entry.pass).2.scopeAt? other := by
    intro other
    rw [restore_eq]
    rfl
  have hactive := (restore_others s target entry).2.2.2.1
  refine ⟨?_, ?_, ?_, ⟨?_, ?_⟩, ?_, s.passBack target entry, ?_, hpass.none, ?_⟩
  · rw [restore_eq]
    exact hrewound.of_same rfl rfl fun _ => rfl
  · rw [hactive]
    exact hunwound.valid
  · rw [hactive]
    exact hunwound.active
  · intro other hother
    have hne : entry.flow ≠ other := (TaskId.ne_of_lt hother).symm
    rw [taskAt?_restore, if_neg hne]
  · intro other hother
    rw [hscopes, hpass.old other (Nat.lt_trans hother hthere), hreopenedBelow other hother]
  · rw [hscopes, hpass.old target hthere, hreopenedTarget]
  · exact taskAt?_restore s target entry
  · intro trees htrees
    obtain ⟨place, scope, hplace, hat, hstate, hresult⟩ := hpass.trees trees htrees
    exact ⟨place, scope, hplace, (hscopes place).trans hat, hstate, hresult⟩

/-- The flow of the record has no child open once it is restored. -/
theorem Restored.current {s' : Session} {target : ScopeId} {entry : Visit} {outer : List ScopeId}
    {flow : Flow} (hrestored : Restored s s' target entry outer)
    (hflow : s'.flowAt? entry.flow = some flow) : flow.current = none := by
  obtain ⟨pass, htasks, -⟩ := hrestored.flow
  rw [flowAt?, htasks, if_pos rfl] at hflow
  obtain ⟨task, htask, hruns⟩ := Option.bind_eq_some_iff.mp hflow
  obtain ⟨old, -, rfl⟩ := Option.map_eq_some_iff.mp htask
  rw [Task.flow?_mapFlow] at hruns
  obtain ⟨before, -, rfl⟩ := Option.map_eq_some_iff.mp hruns
  rfl

end

end Session

end Workflow
