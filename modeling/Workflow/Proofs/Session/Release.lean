import Mathlib.Control.Monad.Basic
import Mathlib.Tactic.Tauto
import Workflow.Proofs.Session.Holding
import Workflow.Proofs.Session.Rest

/-!
# No scope leaks, and none is opened again

At any time the open scopes are exactly those that the flows being run hold.  Every move changes the
two in the same way, `Session.Shifts`: it closes some scopes, which nothing holds any more, and
opens others, which were not there before.  So a released scope stays released, and when no flow is
left to run every scope is released.

A flow is left once it is complete, and a flow is entered before it opens anything.  Both times it
holds nothing but its own scope, which is still held as that of a child.
-/

namespace Workflow.Session

/-- Of the scopes that are open, and of those that are held, some are closed; the others stay, and
scopes that were not there are opened. -/
structure Shifts (s s' : Session) (closed opened : List ScopeId) : Prop where
  opens : ∀ scope, s'.Opened scope ↔ s.Opened scope ∧ scope ∉ closed ∨ scope ∈ opened
  holds : ∀ scope, scope ∈ s'.held ↔ scope ∈ s.held ∧ scope ∉ closed ∨ scope ∈ opened
  fresh : ∀ scope ∈ opened, s.scopeAt? scope = none

/-- The open scopes are those that are held. -/
def Exact (s : Session) : Prop :=
  ∀ scope, s.Opened scope ↔ scope ∈ s.held

section

variable {s s' : Session} {closed opened : List ScopeId}

theorem Shifts.exact (hshifts : Shifts s s' closed opened) (hexact : s.Exact) : s'.Exact := by
  intro scope
  rw [hshifts.opens, hshifts.holds, hexact]

/-- A scope that is released is not opened again. -/
theorem Shifts.released (hshifts : Shifts s s' closed opened) (hgrows : Grows s s')
    {scope : ScopeId} (hreleased : s.Released scope) : s'.Released scope := by
  have hnot := hreleased.not_opened
  obtain ⟨found, hfound, -⟩ := hreleased
  obtain ⟨found', hfound', -⟩ := hgrows.scopes hfound
  refine (opened_or_released hfound').resolve_left fun hopened => ?_
  rcases (hshifts.opens scope).mp hopened with ⟨hbefore, -⟩ | hmem
  · exact hnot hbefore
  · rw [hshifts.fresh scope hmem] at hfound
    cases hfound

/-- Nothing is opened or closed where neither release nor holding changes. -/
theorem Shifts.of_same (hopened : ∀ scope, s'.Opened scope ↔ s.Opened scope)
    (hheld : ∀ scope, scope ∈ s'.held ↔ scope ∈ s.held) : Shifts s s' [] [] where
  opens := by simpa using hopened
  holds := by simpa using hheld
  fresh := by simp

/-- A change inside the innermost flow. What the flows around it hold stays, and it lies no further
in than the scope of that flow. -/
theorem Shifts.of_innermost {id : TaskId} {scope : ScopeId} {outer : List ScopeId}
    (hwired : s.Wired) (hlist : s.active.toList = scope :: outer)
    (hnested : s.Nested id (scope :: outer)) (hactive : s'.active = s.active)
    (hsame : SameBelow s s' id scope) (hgrows : Grows s s')
    (hopens : ∀ other, s'.Opened other ↔ s.Opened other ∧ other ∉ closed ∨ other ∈ opened)
    (hinside : ∀ other, other ∈ s'.insideOf id ↔
      other ∈ s.insideOf id ∧ other ∉ closed ∨ other ∈ opened)
    (hclosed : ∀ other ∈ closed, scope.index < other.index)
    (hfresh : ∀ other ∈ opened, s.scopeAt? other = none) : Shifts s s' closed opened where
  opens := hopens
  fresh := hfresh
  holds := by
    have hbound := hnested.flow_scope hwired
    have hlow : ∀ other, other.index ≤ scope.index → other ∉ closed := fun other hle hmem =>
      Nat.not_lt.mpr hle (hclosed other hmem)
    intro other
    rw [held, held, hactive, hlist, List.flatMap_cons, List.flatMap_cons,
      hnested.held_sameBelow hwired hsame, heldBy_eq hbound, heldBy_eq (hgrows.scope_flow hbound)]
    simp only [List.mem_append, List.mem_singleton]
    rw [hinside]
    have hown : other = scope → other ∉ closed := fun heq => hlow other (heq ▸ Nat.le_refl _)
    have houter : other ∈ outer.flatMap s.heldBy → other ∉ closed := fun hmem =>
      hlow other (hnested.le_of_mem_outer hwired hmem)
    tauto

end

/-! ## Turns -/

/-- A complete flow that is still the innermost one has nothing open. -/
def Emptied (s : Session) : Prop :=
  ∀ scope id task, s.active.head? = some scope → (s.scope scope).flow = some id →
    s.taskAt? id = some task → task.complete = true → s.insideOf id = []

/-- What holds of a session at every move. -/
structure Accounted (s : Session) : Prop where
  sound : s.Sound
  steady : s.Steady
  placed : s.Placed
  untouched : s.Untouched fun flow => flow.inside = []
  exact : s.Exact

section

variable {s s' : Session}

theorem Resting.emptied (hrest : s.Resting) : s.Emptied := by
  intro scope id task hhead hbound htask hcomplete
  obtain ⟨found, hfound, hopen⟩ := hrest scope id hhead hbound
  rw [htask] at hfound
  cases hfound
  rw [hcomplete] at hopen
  cases hopen

/-- A flow that is about to publish has nothing open. -/
theorem AtStep.inside_eq_nil {scope : ScopeId} {id : TaskId} {flow : Flow} {step : FlowStep}
    (hat : s.AtStep scope id flow step) (hplaced : s.Placed)
    (hstep : step = .publish ∨ step = .nextPass) : flow.inside = [] := by
  obtain ⟨task, hwork⟩ := hat.working
  obtain ⟨tasks, hdeclares, hplace⟩ := hplaced.flows hwork.flowAt?
  obtain ⟨-, hnext⟩ := hat.declares hwork.flowAt? hdeclares
  have hpass : flow.pass = none := by
    rcases hstep with rfl | rfl
    · have hloop := Flow.isLoop_of_publish hnext
      cases hpass : flow.pass with
      | none => rfl
      | some pass =>
          rw [hplace.pass (by rw [hpass]; rfl)] at hloop
          cases hloop
    · exact (Flow.of_nextPass hnext).2
  rw [Flow.inside, hat.current, hpass]
  rfl

theorem Turned.emptied {result : Except Error Turn} (hturned : s.Turned result s')
    (hsound : s.Sound) (hplaced : s.Placed) (hemptied : s.Emptied) : s'.Emptied := by
  rcases hturned.rests hsound with ⟨rfl, -⟩ | hrest | ⟨scope, id, flow, step, mark, value, hat,
    hstep, -, rfl⟩
  · exact hemptied
  · exact hrest.emptied
  · intro scope' id' task' hhead hbound htask hcomplete
    obtain ⟨task, hwork⟩ := hat.working
    have hactive : (s.published id mark value).active = s.active := (concluded_others s id mark).1
    rw [hactive, hwork.head] at hhead
    cases hhead
    rw [hturned.grows.scope_flow hwork.bound] at hbound
    cases hbound
    have hafter := flowAt?_published s id mark value
    rw [hwork.flowAt?] at hafter
    rw [insideOf_eq hafter, Flow.inside_concluded]
    exact hat.inside_eq_nil hplaced hstep

theorem opened_foldChild (s : Session) (id : TaskId) (child : Child) (scope : ScopeId) :
    (s.foldChild id child).Opened scope ↔ s.Opened scope ∧ scope ≠ child.scope := by
  have hfolded : ∀ r : Session, (∀ other, r.Opened other ↔ s.Opened other) →
      (((r.closeScope child.scope).modifyFlow id fun flow =>
        { flow with current := none }).Opened scope ↔ s.Opened scope ∧ scope ≠ child.scope) := by
    intro r hr
    rw [opened_modifyFlow, opened_closeScope, hr]
  unfold foldChild
  dsimp only
  apply hfolded
  intro other
  split
  · exact opened_modifyScope _
      ((Scope.keepsRelease_mergeResult _).comp (Scope.keepsRelease_mergeState _)) other
  · exact opened_modifyScope _ (Scope.keepsRelease_mergeState _) other

theorem opened_runChild {id : TaskId} {child : Child} {task : Task}
    (hrun : s.runChild id child task = (.ok (), s')) (scope : ScopeId) :
    s'.Opened scope ↔ s.Opened scope := by
  rcases runChild_cases hrun with ⟨rfl, -⟩ | ⟨ran, heffect, -, rfl⟩
  · exact Iff.rfl
  · have hran : (ran.complete child.task).Opened scope ↔ ran.Opened scope := opened_congr rfl
    rw [hran]
    cases heffect with
    | updated patch => exact opened_modifyScope _ (Scope.keepsRelease_mergeResult patch) scope
    | broken | announced => exact opened_congr rfl

theorem opened_concluded (s : Session) (id : TaskId) (mark : Bool) (scope : ScopeId) :
    (s.concluded id mark).Opened scope ↔ s.Opened scope := by
  cases mark <;> exact Iff.rfl

theorem opened_attempt (s : Session) (id : TaskId) (flow : Flow) (scope : ScopeId) :
    (s.attempt id flow).Opened scope ↔ s.Opened scope ∨ scope = s.nextScope := by
  rw [attempt, opened_openScope, opened_modifyFlow]
  rfl

/-- The flow that has folded its child. -/
theorem flowAt?_foldChild {id : TaskId} {flow : Flow} (hflow : s.flowAt? id = some flow)
    (child : Child) : (s.foldChild id child).flowAt? id = some { flow with current := none } := by
  rw [foldChild_eq hflow, flowAt?_modifyFlow_self, flowAt?_closeScope, flowAt?_modifyScope, hflow]
  rfl

theorem flowAt?_openPass (s : Session) (id : TaskId) (flow : Flow) :
    (s.openPass id flow).flowAt? id = (s.flowAt? id).map fun flow =>
      { flow with pass := some s.nextScope, cursor := 0, broke := false,
                  passes := flow.passes + 1 } := by
  rw [openPass, flowAt?_modifyFlow_self, flowAt?_openScope]

theorem flowAt?_endPass (s : Session) (id : TaskId) (pass : ScopeId) (snapshot : Value) :
    (s.endPass id pass snapshot).flowAt? id = (s.flowAt? id).map (·.foldPass snapshot) := by
  rw [endPass, flowAt?_modifyFlow_self, flowAt?_closeScope, flowAt?_modifyScope]

/-- Apart from its child a flow has its pass open inside, and that is another scope. -/
theorem AtChild.mem_pass {scope : ScopeId} {id : TaskId} {flow : Flow} {child : Child}
    {inner : Task} (hat : s.AtChild scope id flow child inner) (hwired : s.Wired)
    (other : ScopeId) : flow.pass = some other ↔ other ∈ flow.inside ∧ other ≠ child.scope := by
  obtain ⟨task, hwork⟩ := hat.working
  have hinside := (hwired.linked hwork.flowAt?).inside hat.current
  rw [Flow.mem_inside, hat.current]
  constructor
  · intro hpass
    rw [around_eq, hpass] at hinside
    exact ⟨.inr hpass, ScopeId.ne_of_lt hinside⟩
  · rintro ⟨⟨child', hcurrent, rfl⟩ | hpass, hother⟩
    · cases hcurrent
      exact absurd rfl hother
    · exact hpass

/-- A turn of the innermost flow that does not enter or leave one changes what that flow has open
inside, and nothing else. -/
theorem Working.shifts {result : Except Error Turn} {scope : ScopeId} {id : TaskId} {task : Task}
    {flow flow' : Flow} (hwork : s.Working scope id task flow) (closed opened : List ScopeId)
    (hturned : s.Turned result s') (hsound : s.Sound) (hactive : s'.active = s.active)
    (hflow' : s'.flowAt? id = some flow')
    (hopens : ∀ other, s'.Opened other ↔ s.Opened other ∧ other ∉ closed ∨ other ∈ opened)
    (hinside : ∀ other, other ∈ flow'.inside ↔ other ∈ flow.inside ∧ other ∉ closed ∨
      other ∈ opened)
    (hclosed : ∀ other ∈ closed, scope.index < other.index)
    (hfresh : ∀ other ∈ opened, s.scopeAt? other = none) : Shifts s s' closed opened := by
  obtain ⟨outer, hlist, hnested⟩ := hwork.nested hsound
  have hsame := hturned.sameBelow hsound.wired hwork.head hwork.bound
  refine .of_innermost hsound.wired hlist hnested hactive hsame hturned.grows hopens ?_ hclosed
    hfresh
  rw [insideOf_eq hflow', insideOf_eq hwork.flowAt?]
  exact hinside

/-- Giving up a child closes its scope. -/
theorem AtChild.shifts {result : Except Error Turn} {scope : ScopeId} {id : TaskId}
    {flow flow' : Flow} {child : Child} {inner : Task} (hat : s.AtChild scope id flow child inner)
    (hturned : s.Turned result s') (hsound : s.Sound) (hactive : s'.active = s.active)
    (hflow' : s'.flowAt? id = some flow') (hcurrent : flow'.current = none)
    (hpass : flow'.pass = flow.pass)
    (hopens : ∀ other, s'.Opened other ↔ s.Opened other ∧ other ≠ child.scope) :
    Shifts s s' [child.scope] [] := by
  obtain ⟨task, hwork⟩ := hat.working
  obtain ⟨-, -, -, -, hle, hlt⟩ := hat.places hsound.wired
  apply hwork.shifts [child.scope] [] hturned hsound hactive hflow'
  · simpa using hopens
  · intro other
    rw [Flow.mem_inside, hcurrent, hpass]
    simpa using hat.mem_pass hsound.wired other
  · intro other hmem
    rw [List.mem_singleton.mp hmem]
    exact Nat.lt_of_le_of_lt hle hlt
  · simp

/-- Taking another scope inside opens it. -/
theorem Working.shifts_opened {result : Except Error Turn} {scope : ScopeId} {id : TaskId}
    {task : Task} {flow flow' : Flow} (hwork : s.Working scope id task flow)
    (hturned : s.Turned result s') (hsound : s.Sound) (hactive : s'.active = s.active)
    (hflow' : s'.flowAt? id = some flow')
    (hinside : ∀ other, other ∈ flow'.inside ↔ other ∈ flow.inside ∨ other = s.nextScope)
    (hopens : ∀ other, s'.Opened other ↔ s.Opened other ∨ other = s.nextScope) :
    Shifts s s' [] [s.nextScope] := by
  apply hwork.shifts [] [s.nextScope] hturned hsound hactive hflow'
  · simpa using hopens
  · simpa using hinside
  · simp
  · intro other hmem
    rw [List.mem_singleton.mp hmem]
    exact scopeAt?_nextScope s

/-- Nothing is opened or closed where the innermost flow has the same open inside. -/
theorem Working.shifts_none {result : Except Error Turn} {scope : ScopeId} {id : TaskId}
    {task : Task} {flow flow' : Flow} (hwork : s.Working scope id task flow)
    (hturned : s.Turned result s') (hsound : s.Sound) (hactive : s'.active = s.active)
    (hflow' : s'.flowAt? id = some flow') (hinside : flow'.inside = flow.inside)
    (hopens : ∀ other, s'.Opened other ↔ s.Opened other) : Shifts s s' [] [] := by
  apply hwork.shifts [] [] hturned hsound hactive hflow'
  · simpa using hopens
  · simp [hinside]
  · simp
  · simp

/-- A flow that is entered has nothing open inside, and its own scope is held by the flow around it
already. -/
theorem AtChild.shifts_entered {scope : ScopeId} {id : TaskId} {flow : Flow} {child : Child}
    {inner : Task} (hat : s.AtChild scope id flow child inner) (haccounted : s.Accounted)
    (hisFlow : inner.isFlow = true) (hopen : inner.complete = false) :
    Shifts s { s with active := s.active.push child.scope } [] [] := by
  obtain ⟨task, hwork⟩ := hat.working
  have hsound := haccounted.sound
  obtain ⟨outer, hlist, hnested⟩ := hwork.nested hsound
  obtain ⟨nested, hruns⟩ := Option.isSome_iff_exists.mp hisFlow
  have hnothing : s.insideOf child.task = [] := by
    rw [insideOf_eq (flowAt?_eq_some_iff.mpr ⟨inner, hat.inner, hruns⟩)]
    rw [← hlist] at hnested
    exact haccounted.untouched id flow child inner nested hnested hwork.flowAt? hat.current
      hat.inner hopen hruns
  have hchild := hsound.wired.flow_scope hat.inner hisFlow
  rw [(hat.places hsound.wired).1] at hchild
  have hthere : child.scope ∈ s.held := by
    rw [held, hlist, List.flatMap_cons, heldBy_eq hwork.bound, insideOf_eq hwork.flowAt?]
    refine List.mem_append_left _ (List.mem_append_left _ ?_)
    exact Flow.mem_inside.mpr (.inl ⟨child, hat.current, rfl⟩)
  refine .of_same (fun _ => Iff.rfl) fun other => ?_
  have hpushed : ({ s with active := s.active.push child.scope } : Session).held =
      s.heldBy child.scope ++ s.held := by
    rw [held, Cursor.toList_push hsound.active, List.flatMap_cons]
    rfl
  rw [hpushed, heldBy_eq hchild, hnothing, List.nil_append, List.mem_append,
    List.mem_singleton]
  constructor
  · rintro (rfl | hmem)
    · exact hthere
    · exact hmem
  · exact .inr

/-- A flow that is left has nothing open inside. Its own scope is still held by the flow around it,
and closed if it was the outermost flow. -/
theorem shifts_leave {scope : ScopeId} (hsound : s.Sound) (hemptied : s.Emptied)
    (hhead : s.active.head? = some scope) {id : TaskId} {task : Task}
    (hbound : (s.scope scope).flow = some id) (htask : s.taskAt? id = some task)
    (hcomplete : task.complete = true) :
    ∃ closed, Shifts s (s.leave scope).2 closed [] := by
  obtain ⟨id', outer, hlist, hnested, -⟩ := hsound.head hhead
  have hnothing : s.heldBy scope = [scope] := by
    rw [heldBy_eq hbound, hemptied scope id task hhead hbound htask hcomplete]
    rfl
  have hpopped : s.active.pop.toList = outer := by
    rw [Cursor.toList_pop hsound.active, hlist, List.tail_cons]
  have hheld : s.held = scope :: outer.flatMap s.heldBy := by
    rw [held, hlist, List.flatMap_cons, hnothing]
    rfl
  unfold leave
  dsimp only
  split_ifs with hempty
  · rw [Cursor.isEmpty_eq hsound.active.pop, hpopped, List.isEmpty_iff] at hempty
    subst hempty
    refine ⟨[scope], fun other => ?_, fun other => ?_, by simp⟩
    · have hclosed : (Session.closeScope { s with active := s.active.pop } scope).Opened other ↔
          s.Opened other ∧ other ≠ scope := opened_closeScope scope other
      simpa using hclosed
    · have hnone : (Session.closeScope { s with active := s.active.pop } scope).held = [] := by
        rw [held, (closeScope_others _ scope).2.2.2.2.1, hpopped]
        rfl
      rw [hnone, hheld]
      simp
  · cases outer with
    | nil =>
        rw [Cursor.isEmpty_eq hsound.active.pop, hpopped] at hempty
        exact absurd rfl hempty
    | cons next rest =>
        have hthere : scope ∈ (next :: rest).flatMap s.heldBy := by
          obtain ⟨rest', hfirst⟩ := hnested.eq_cons hsound.wired
          cases hnested with
          | child houter htask' _ hflow hcurrent =>
              have hruns := flowAt?_eq_some_iff.mpr ⟨_, htask', hflow⟩
              rw [List.flatMap_cons, heldBy_eq (houter.flow_scope hsound.wired), insideOf_eq hruns]
              refine List.mem_append_left _ (List.mem_append_left _ ?_)
              exact Flow.mem_inside.mpr (.inl ⟨_, hcurrent, rfl⟩)
        refine ⟨[], .of_same (fun _ => Iff.rfl) fun other => ?_⟩
        have hleft : ({ s with active := s.active.pop } : Session).held =
            (next :: rest).flatMap s.heldBy := by
          rw [held, hpopped]
          rfl
        rw [hleft, hheld, List.mem_cons]
        constructor
        · exact .inr
        · rintro (rfl | hmem)
          · exact hthere
          · exact hmem

/-- A turn closes what the innermost flow gives up, and opens what it takes. -/
theorem Turned.shifts {result : Except Error Turn} (hturned : s.Turned result s')
    (haccounted : s.Accounted) (hemptied : s.Emptied) :
    ∃ closed opened, Shifts s s' closed opened := by
  have hsound := haccounted.sound
  have hstep := hturned
  cases hturned with
  | idle | stuck | waiting => exact ⟨[], [], .of_same (fun _ => Iff.rfl) fun _ => Iff.rfl⟩
  | unbound hhead hflow =>
      obtain ⟨id, outer, -, -, hbound⟩ := hsound.head hhead
      rw [hflow] at hbound
      cases hbound
  | left _ hhead hbound htask hcomplete hleave =>
      obtain ⟨closed, hshifts⟩ := shifts_leave hsound hemptied hhead hbound htask hcomplete
      rw [hleave] at hshifts
      exact ⟨closed, [], hshifts⟩
  | entered hat hisFlow hopen => exact ⟨[], [], hat.shifts_entered haccounted hisFlow hopen⟩
  | @interrupted _ id _ _ _ hat =>
      obtain ⟨task, hwork⟩ := hat.working
      have hflow' := flowAt?_modifyFlow_self s id Flow.interrupted
      rw [hwork.flowAt?] at hflow'
      exact ⟨[], [], hwork.shifts_none hstep hsound rfl hflow' (Flow.inside_interrupted _)
        fun _ => opened_congr rfl⟩
  | @settled _ id _ child _ ran hat _ _ hrun =>
      obtain ⟨broke, hran⟩ := hat.flowAt?_runChild hsound.wired hrun
      have hactive := (foldChild_others ran id child).1.trans (runChild_others hrun).1
      have hflow' := flowAt?_foldChild hran child
      refine ⟨_, _, hat.shifts hstep hsound hactive hflow' rfl rfl fun other => ?_⟩
      rw [opened_foldChild, opened_runChild hrun]
  | @dropped _ id _ child _ _ hat =>
      obtain ⟨task, hwork⟩ := hat.working
      have hflow' := flowAt?_modifyFlow_self (s.closeScope child.scope) id fun flow =>
        { flow with current := none, cursor := child.place }
      rw [flowAt?_closeScope, hwork.flowAt?] at hflow'
      exact ⟨_, _, hat.shifts hstep hsound rfl hflow' rfl rfl fun other =>
        opened_closeScope child.scope other⟩
  | @skipped _ id flow _ hat | @unopened _ id flow _ _ hat =>
      obtain ⟨task, hwork⟩ := hat.working
      have hflow' := flowAt?_passOver s id flow id
      rw [if_pos rfl, hwork.flowAt?] at hflow'
      refine ⟨[], [], hwork.shifts_none hstep hsound rfl hflow' (Flow.inside_congr rfl rfl)
        fun other => ?_⟩
      rw [passOver, opened_closeScope, opened_attempt]
      have hnew := not_opened_nextScope s
      constructor
      · rintro ⟨hopened | hnext, hne⟩
        · exact hopened
        · exact absurd hnext hne
      · exact fun hopened => ⟨.inl hopened, fun heq => hnew (heq ▸ hopened)⟩
  | @opened _ id flow decl activity hat =>
      obtain ⟨task, hwork⟩ := hat.working
      refine ⟨_, _, hwork.shifts_opened hstep hsound (by simp) (flowAt?_openChild hat)
        (fun other => ?_) fun other => ?_⟩
      · simp [Flow.mem_inside, hat.current, nextChild, eq_comm, or_comm]
      · rw [openChild_eq, opened_modifyFlow, opened_openTask, opened_attempt]
  | @passOpened _ id flow hat =>
      obtain ⟨task, hwork⟩ := hat.working
      obtain ⟨declared, -, hnext⟩ := hat.next
      have hflow' := flowAt?_openPass s id flow
      rw [hwork.flowAt?] at hflow'
      refine ⟨_, _, hwork.shifts_opened hstep hsound rfl hflow' (fun other => ?_) fun other => ?_⟩
      · simp [Flow.mem_inside, (Flow.of_nextPass hnext).2, eq_comm]
      · rw [openPass, opened_modifyFlow, opened_openScope]
  | @passEnded _ id flow pass snapshot hat hpass =>
      obtain ⟨task, hwork⟩ := hat.working
      have hflow' := flowAt?_endPass s id pass snapshot
      rw [hwork.flowAt?] at hflow'
      refine ⟨_, _, hwork.shifts [pass] [] hstep hsound rfl hflow' (fun other => ?_)
        (fun other => ?_) (fun other hmem => ?_) (by simp)⟩
      · rw [endPass, opened_modifyFlow, opened_closeScope,
          opened_modifyScope _ (Scope.keepsRelease_mergeState _)]
        simp
      · simp [Flow.mem_inside, Flow.foldPass, hat.current, hpass, eq_comm]
      · have hbelow := ((hsound.wired.linked hwork.flowAt?).pass hpass).2
        rw [hwork.scopeOf_eq hsound.wired] at hbelow
        rwa [List.mem_singleton.mp hmem]
  | @published _ id flow _ mark value hat =>
      obtain ⟨task, hwork⟩ := hat.working
      have hflow' := flowAt?_published s id mark value
      rw [hwork.flowAt?] at hflow'
      refine ⟨_, _, hwork.shifts_none hstep hsound (concluded_others s id mark).1 hflow'
        (Flow.inside_concluded flow mark) fun other => ?_⟩
      have hmerged : (s.published id mark value).Opened other ↔
          (s.concluded id mark).Opened other :=
        opened_modifyScope _ (Scope.keepsRelease_mergeResult value) other
      rw [hmerged, opened_concluded]
  | @unpublished _ id flow _ hat =>
      obtain ⟨task, hwork⟩ := hat.working
      have hflow' := flowAt?_concluded s id true
      rw [hwork.flowAt?] at hflow'
      exact ⟨_, _, hwork.shifts_none hstep hsound (concluded_others s id true).1 hflow'
        (Flow.inside_concluded flow true) fun other => opened_concluded s id true other⟩

/-! ## Acts -/

/-- Going back closes what the flows above hold and what the target has open inside, and opens the
pass of the record. -/
theorem Accounted.shifts_restore (haccounted : s.Accounted) {id : TaskId} {target : ScopeId}
    {above outer : List ScopeId} {entry : Visit}
    (hlist : s.active.toList = above ++ target :: outer)
    (hnested : s.Nested id s.active.toList) (hflow : s.Nested entry.flow (target :: outer)) :
    Shifts s (s.restore target entry) (s.closedBy above entry)
      (s.passBack target entry).toList := by
  have hsound := haccounted.sound
  have hrestored := restored hsound.wired hsound.active hnested (hlist ▸ List.suffix_append _ _)
    hflow
  rw [hlist] at hnested
  have hbelow : ∀ scope, scope.index ≤ target.index → scope ∉ s.closedBy above entry :=
    fun scope hle hmem =>
      Nat.not_lt.mpr hle (hnested.lt_of_mem_closedBy hsound.wired hflow hmem)
  have htarget := hbelow target (Nat.le_refl _)
  have hheld : s.held = (s.closedBy above entry ++ [target]) ++ outer.flatMap s.heldBy := by
    rw [held, hlist, List.flatMap_append, List.flatMap_cons,
      heldBy_eq (hflow.flow_scope hsound.wired), closedBy]
    simp only [List.append_assoc]
  refine ⟨fun scope => ?_, fun scope => ?_, fun scope hmem => ?_⟩
  · rw [opened_restore, Option.mem_toList]
    by_cases hself : target = scope
    · subst hself
      have hopen : s.Opened target := by
        rw [haccounted.exact, hheld]
        simp
      have hopen' : (s.reopened target entry).Opened target := by
        obtain ⟨found, hfound, -⟩ := hopen
        have hback := hrestored.trees
        rw [scopeAt?_restore_of_lt s target entry (scopeAt?_lt hfound), hfound] at hback
        exact ⟨_, hback, rfl⟩
      simp [hopen, hopen', htarget]
    · rw [opened_congr (scopeAt?_reopened hlist (hnested.notMem_above hsound.wired) entry scope
        hself), opened_closeAll]
  · rw [hrestored.held_eq hsound.wired hflow, hheld]
    simp only [List.mem_append, List.mem_singleton]
    have hown : scope = target → scope ∉ s.closedBy above entry := fun heq => heq ▸ htarget
    have houter : scope ∈ outer.flatMap s.heldBy → scope ∉ s.closedBy above entry := fun hmem =>
      hbelow scope (hflow.le_of_mem_outer hsound.wired hmem)
    tauto
  · rw [passBack_eq] at hmem
    obtain ⟨trees, -, rfl⟩ := Option.map_eq_some_iff.mp (Option.mem_toList.mp hmem)
    exact scopeAt?_nextScope s

/-- An act other than going back neither opens nor closes a scope. -/
theorem Act.shifts {id : TaskId} (hact : Act id s s') (haccounted : s.Accounted) :
    ∃ closed opened, Shifts s s' closed opened := by
  have hgrows := hact.grows
  have hsame : Quiet id s s' → (∀ scope, s'.bindingAt? scope = s.bindingAt? scope) →
      (∀ scope, s'.Opened scope ↔ s.Opened scope) → ∃ closed opened, Shifts s s' closed opened := by
    intro hquiet hbindings hopened
    refine ⟨[], [], .of_same hopened fun scope => ?_⟩
    rw [held, held, hquiet.active, heldBy_of_same hbindings (hquiet.flowAt?_eq hgrows)]
  cases hact with
  | screenSet _ htask hscreen =>
      exact hsame (quiet_modifyTask htask (Task.takesInput_of_screen hscreen) _) (fun _ => rfl)
        fun _ => Iff.rfl
  | resultMerged patch htask hinput =>
      exact hsame (quiet_modifyScope htask hinput _)
        (bindingAt?_modifyScope s _ (Scope.keepsBinding_mergeResult patch))
        (opened_modifyScope _ (Scope.keepsRelease_mergeResult patch))
  | patched patch htask hinput =>
      exact hsame (quiet_modifyScope htask hinput _)
        (bindingAt?_modifyScope s _
          ((Scope.keepsBinding_mergeResult patch).comp (Scope.keepsBinding_mergeState patch)))
        (opened_modifyScope _
          ((Scope.keepsRelease_mergeResult patch).comp (Scope.keepsRelease_mergeState patch)))
  | completed htask hinput =>
      exact hsame (quiet_modifyTask htask hinput _) (fun _ => rfl) fun _ => Iff.rfl
  | recorded | refused =>
      exact hsame (.of_same rfl rfl rfl rfl rfl) (fun _ => rfl) fun _ => Iff.rfl
  | @returned task entry target htask hentry htarget =>
      rcases haccounted.sound.nested with hempty | ⟨innermost, hnested⟩
      · rw [hempty] at htarget
        cases htarget
      · obtain ⟨-, outer, ⟨above, hlist⟩, hflow⟩ :=
          hnested.of_returnTarget? haccounted.sound.wired htarget
        obtain ⟨hopens, hholds, hfresh⟩ :=
          haccounted.shifts_restore hlist.symm hnested hflow
        exact ⟨_, _, hopens, hholds, hfresh⟩

/-! ## Runs -/

/-- A session comes to another one in which the open scopes are still those that are held, and opens
none of the scopes again that were released. -/
structure Retains (s s' : Session) : Prop where
  accounted : s'.Accounted
  released : ∀ scope, s.Released scope → s'.Released scope

theorem Retains.refl (haccounted : s.Accounted) : Retains s s :=
  ⟨haccounted, fun _ hreleased => hreleased⟩

theorem Retains.trans {s'' : Session} (hfirst : Retains s s') (hsecond : Retains s' s'') :
    Retains s s'' where
  accounted := hsecond.accounted
  released := fun scope hreleased => hsecond.released scope (hfirst.released scope hreleased)

theorem retains_turn {result : Except Error Turn} (hturn : s.turn = (result, s'))
    (haccounted : s.Accounted) (hemptied : s.Emptied) : Retains s s' := by
  obtain ⟨hsound, hsteady, hplaced, huntouched, hexact⟩ := haccounted
  have hturned := turned hturn
  have hbuilt : ∀ flow : Flow, flow = flow.skeleton → flow.inside = [] := by
    intro flow hflow
    rw [hflow]
    rfl
  obtain ⟨closed, opened, hshifts⟩ :=
    hturned.shifts ⟨hsound, hsteady, hplaced, huntouched, hexact⟩ hemptied
  refine ⟨⟨hturned.sound hsound, (Move.turn hturn).steady hsound hsteady, hturned.placed hplaced,
    huntouched.turn hsteady.pristine hbuilt hsound hturn, hshifts.exact hexact⟩, ?_⟩
  exact fun _ hreleased => hshifts.released hturned.grows hreleased

theorem Act.retains {id : TaskId} (hact : Act id s s') (haccounted : s.Accounted) :
    Retains s s' := by
  obtain ⟨closed, opened, hshifts⟩ := hact.shifts haccounted
  obtain ⟨hsound, hsteady, hplaced, huntouched, hexact⟩ := haccounted
  refine ⟨⟨hact.sound hsound, (Move.act hact).steady hsound hsteady, hact.placed hsound hplaced,
    huntouched.act hsound hact, hshifts.exact hexact⟩, ?_⟩
  exact fun _ hreleased => hshifts.released hact.grows hreleased

theorem Alike.retains (halike : Alike s s') (haccounted : s.Accounted) : Retains s s' := by
  have hscopes : ∀ scope, s'.scopeAt? scope = s.scopeAt? scope := by
    simp [scopeAt?, halike.scopes]
  have hbindings : ∀ scope, s'.bindingAt? scope = s.bindingAt? scope := by
    simp [bindingAt?, hscopes]
  have hflows : ∀ id, s'.flowAt? id = s.flowAt? id := by
    simp [flowAt?, taskAt?, halike.tasks]
  obtain ⟨hsound, hsteady, hplaced, huntouched, hexact⟩ := haccounted
  refine ⟨⟨halike.sound hsound, halike.steady hsound hsteady, halike.placed hplaced,
    halike.untouched hsound huntouched, fun scope => ?_⟩, fun scope hreleased => ?_⟩
  · rw [opened_congr (hscopes scope), hexact, held, held, halike.active,
      heldBy_of_same hbindings hflows]
  · rwa [Released, hscopes]

theorem Turns.retains {count : Nat} (hturns : Turns count s s') (haccounted : s.Accounted)
    (hemptied : s.Emptied) : Retains s s' ∧ s'.Emptied := by
  induction hturns with
  | refl => exact ⟨.refl haccounted, hemptied⟩
  | turn hturn _ ih =>
      have hfirst := retains_turn hturn haccounted hemptied
      obtain ⟨hrest, hlast⟩ := ih hfirst.accounted
        ((turned hturn).emptied haccounted.sound haccounted.placed hemptied)
      exact ⟨hfirst.trans hrest, hlast⟩

theorem Acts.retains {id : TaskId} (hacts : Acts id s s') (haccounted : s.Accounted) :
    Retains s s' := by
  induction hacts with
  | refl => exact .refl haccounted
  | tail _ hact ih => exact ih.trans (hact.retains ih.accounted)

/-- An operation keeps the open scopes those that are held, whether it fails or not. -/
theorem Step.retains (hstep : Step s s') (haccounted : s.Accounted) (hrest : s.Resting) :
    Retains s s' := by
  cases hstep with
  | pulled hpull hanswer =>
      obtain ⟨count, r, result, hturns, hlast, -⟩ := exists_last_turn hpull hanswer
      obtain ⟨hfirst, hemptied⟩ := hturns.retains haccounted hrest.emptied
      exact hfirst.trans (retains_turn hlast hfirst.accounted hemptied)
  | filledIn id field value => exact Acts.retains (fillIn_acts s id field value) haccounted
  | clicked id component => exact Acts.retains (click_acts s id component) haccounted
  | answered id value => exact Acts.retains (answer_acts s id value) haccounted
  | breakpointSet name => exact (alike_setBreakpoint s name).retains haccounted

theorem Drives.retains (hdrives : s.Drives s') (haccounted : s.Accounted) (hrest : s.Resting) :
    Retains s s' ∧ s'.Resting := by
  induction hdrives with
  | refl => exact ⟨.refl haccounted, hrest⟩
  | @tail r _ _ hdrive ih =>
      obtain ⟨hbefore, hresting⟩ := ih
      cases hdrive with
      | operated hstep =>
          exact ⟨hbefore.trans (hstep.retains hbefore.accounted hresting),
            hstep.resting hbefore.accounted.sound hresting⟩
      | requeued events =>
          have halike := alike_requeue r events
          exact ⟨hbefore.trans (halike.retains hbefore.accounted), halike.resting hresting⟩

/-- A session starts with the scope of its root flow as the only one, and that flow holds it. -/
theorem initial_exact (document : Document) (settings : SessionSettings) (ownsEvents : Bool)
    (flowSettings : FlowSettings) :
    (initial document settings ownsEvents flowSettings).Exact := by
  intro scope
  have hheld : (initial document settings ownsEvents flowSettings).held = [⟨0⟩] := rfl
  rw [hheld, List.mem_singleton]
  obtain ⟨index⟩ := scope
  cases index with
  | zero => exact ⟨fun _ => rfl, fun _ => ⟨_, rfl, rfl⟩⟩
  | succ index =>
      constructor
      · rintro ⟨found, hfound, -⟩
        cases hfound
      · intro heq
        cases heq

/-- What holds of a session between two operations. -/
theorem Driven.accounted (hdriven : s.Driven) : s.Accounted ∧ s.Resting := by
  obtain ⟨document, settings, ownsEvents, start, hstart, hdrives⟩ := hdriven
  obtain ⟨declared, hdeclared, rfl⟩ := start_eq hstart
  obtain ⟨hretains, hrest⟩ := hdrives.retains
    ⟨initial_sound document settings ownsEvents declared.settings,
      initial_steady document settings ownsEvents declared.settings, initial_placed hdeclared,
      initial_untouched _ document settings ownsEvents declared.settings,
      initial_exact document settings ownsEvents declared.settings⟩
    (initial_resting document settings ownsEvents declared.settings)
  exact ⟨hretains.accounted, hrest⟩

end

/-! ## Scopes in use -/

/-- Some flow being run uses the scope: as its own, as that of its pass, or as that of its child. -/
def InUse (s : Session) (scope : ScopeId) : Prop :=
  ∃ own ∈ s.active.toList, ∃ id flow, (s.scope own).flow = some id ∧ s.flowAt? id = some flow ∧
    (scope = own ∨ flow.pass = some scope ∨
      ∃ child, flow.current = some child ∧ child.scope = scope)

theorem Sound.mem_held_iff {s : Session} (hsound : s.Sound) (scope : ScopeId) :
    scope ∈ s.held ↔ s.InUse scope := by
  have hruns : ∀ own ∈ s.active.toList, ∃ id flow, (s.scope own).flow = some id ∧
      s.flowAt? id = some flow := by
    intro own hmem
    obtain ⟨above, outer, hlist⟩ := List.append_of_mem hmem
    rcases hsound.nested with hempty | ⟨innermost, hnested⟩
    · rw [hempty] at hmem
      cases hmem
    · obtain ⟨id, hself⟩ := hnested.of_suffix (hlist ▸ List.suffix_append above (own :: outer))
      obtain ⟨task, htask, hisFlow⟩ := hself.isFlow hsound.wired
      obtain ⟨flow, hflow⟩ := Option.isSome_iff_exists.mp hisFlow
      exact ⟨id, flow, hself.flow_scope hsound.wired,
        flowAt?_eq_some_iff.mpr ⟨task, htask, hflow⟩⟩
  have hheldBy : ∀ {own id flow}, (s.scope own).flow = some id → s.flowAt? id = some flow →
      (scope ∈ s.heldBy own ↔ scope = own ∨ flow.pass = some scope ∨
        ∃ child, flow.current = some child ∧ child.scope = scope) := by
    intro own id flow hbound hflow
    rw [heldBy_eq hbound, insideOf_eq hflow, List.mem_append, Flow.mem_inside,
      List.mem_singleton, or_comm, or_comm (b := flow.pass = some scope)]
  rw [held, List.mem_flatMap]
  constructor
  · rintro ⟨own, hmem, hscope⟩
    obtain ⟨id, flow, hbound, hflow⟩ := hruns own hmem
    exact ⟨own, hmem, id, flow, hbound, hflow, (hheldBy hbound hflow).mp hscope⟩
  · rintro ⟨own, hmem, id, flow, hbound, hflow, huse⟩
    exact ⟨own, hmem, (hheldBy hbound hflow).mpr huse⟩

/-- The scopes that are open are exactly those in use. A released scope stays released, whatever
happens to the session, and once the session is finished every scope is released. -/
theorem opened_iff_inUse {s : Session} (hdriven : s.Driven) :
    (∀ scope, s.Opened scope ↔ s.InUse scope) ∧
      (∀ s', s.Drives s' → ∀ scope, s.Released scope → s'.Released scope) ∧
      (s.isFinished = true → ∀ scope found, s.scopeAt? scope = some found →
        found.released = true) := by
  obtain ⟨haccounted, hrest⟩ := hdriven.accounted
  have hexact : ∀ scope, s.Opened scope ↔ s.InUse scope := by
    intro scope
    rw [haccounted.exact, haccounted.sound.mem_held_iff]
  refine ⟨hexact, fun s' hdrives => (hdrives.retains haccounted hrest).1.released, ?_⟩
  intro hfinished scope found hfound
  rw [isFinished, Cursor.isEmpty_eq haccounted.sound.active, List.isEmpty_iff] at hfinished
  rcases opened_or_released hfound with hopened | ⟨found', hfound', hreleased⟩
  · obtain ⟨own, hmem, -⟩ := (hexact scope).mp hopened
    rw [hfinished] at hmem
    cases hmem
  · rw [hfound] at hfound'
    cases hfound'
    exact hreleased

/-- A document that shows a screen for each of two items. -/
def roundsDocument : Document where
  repository :=
    { components := [
        ("next", { preconditions := [], validators := [], destination := none,
                   widget := .button "next" none "Next" .null [] })]
      validators := []
      flows := [
        ("each", { tasks := [
                     { name := "show", preconditions := [],
                       action := .screen [[{ component := "next", destination := none,
                                             preconditions := none }]] }],
                   settings := { itemsPath := some "$.items" } }),
        ("main", { tasks := [
                     { name := "each", preconditions := [], action := .flow .forItems none }],
                   settings := {} })] }
  startingFlow := "main"
  context := .object [("items", .list [.string "first", .string "second"])]
  hash := none

def firstRound : Session :=
  (initial roundsDocument {} true {}).pull.2

def secondRound : Session :=
  (firstRound.click ⟨2⟩ "next").2.pull.2

theorem secondRound_driven : secondRound.Driven :=
  Reachable.driven (reachable_carryOut [.pull, .click ⟨2⟩ "next", .pull] (by decide +kernel) rfl
    (by decide +kernel))

/-- With the second screen on show, the scopes of the two flows, of the second pass and of its
screen are open; those of the first pass and of its screen are released, and stay so. -/
theorem secondRound_opened :
    (∀ scope, secondRound.Opened scope ↔ secondRound.InUse scope) ∧
      [0, 1, 2, 3, 4, 5].map (fun index => decide (secondRound.Opened ⟨index⟩)) =
        [true, true, false, false, true, true] ∧
      ∀ s', secondRound.Drives s' → s'.Released ⟨2⟩ ∧ s'.Released ⟨3⟩ := by
  obtain ⟨hexact, hstays, -⟩ := opened_iff_inUse secondRound_driven
  refine ⟨hexact, by decide +kernel, fun s' hdrives => ?_⟩
  exact ⟨hstays s' hdrives ⟨2⟩ (by decide +kernel), hstays s' hdrives ⟨3⟩ (by decide +kernel)⟩

end Workflow.Session
