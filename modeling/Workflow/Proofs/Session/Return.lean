import Mathlib.Control.Monad.Basic
import Workflow.Proofs.Session.Rest
import Workflow.Proofs.Session.Results

/-!
# Going back

Going back to a record puts the flow of the record, its trees and the call stack back to what they
were when the record was made, and the next pull opens the recorded screen again in the state in
which it was opened first.  Whatever happened in between does not matter, as long as no redirect
has ended the document.

Three runs meet here.  From the opening of the screen to the record its flow keeps it as its child,
`Moves.keeps`.  From the record to going back the flow may do anything, but it loses no snapshot
that the record counts, `Session.Guarded`, and it was being run all along: a flow that was cut off
with a child open is never entered again, `Session.Cut`.
-/

namespace Workflow

/-- The flow stands at `place` with nothing open but its pass, and otherwise where `flow` stood. -/
structure Flow.StandsAt (back flow : Flow) (place : Nat) : Prop where
  cursor : back.cursor = place
  current : back.current = none
  broke : back.broke = flow.broke
  passes : back.passes = flow.passes
  finished : back.finished = flow.finished
  snapshots : back.snapshots = flow.snapshots

namespace Session

section

variable {s s' : Session} {id : TaskId}

/-! ## Flows that were cut off -/

/-- The flow has a child open but is not among those being run. -/
structure Cut (s : Session) (id : TaskId) : Prop where
  idle : ¬ s.Running id
  holds : ∃ flow child, s.flowAt? id = some flow ∧ flow.current = some child

theorem Running.of_suffix (hsound : s.Sound) (hgrows : Grows s s') (hwired' : s'.Wired)
    (hsuffix : s'.active.toList <:+ s.active.toList) (hrunning : s'.Running id) :
    s.Running id := by
  obtain ⟨scope, outer, hself, hnested⟩ := hrunning
  exact running_of_suffix hsound hgrows hwired' (hself.trans hsuffix) hnested

/-- A flow that was cut off stays so. -/
theorem Cut.turn {result : Except Error Turn} (hcut : s.Cut id) (hsound : s.Sound)
    (hpristine : s.Pristine) (hturn : s.turn = (result, s')) : s'.Cut id := by
  obtain ⟨hidle, flow, child, hflow, hcurrent⟩ := hcut
  have hturned := turned hturn
  refine ⟨fun hrunning => ?_, ?_⟩
  · rcases running_before_turn hturned hsound hrunning with hbefore |
      ⟨scope, owner, around, entered, inner, hat, -, hopen, rfl, -⟩
    · exact hidle hbefore
    · obtain ⟨working, hwork⟩ := hat.working
      obtain ⟨outer, hlist, hnested⟩ := hwork.nested hsound
      rw [← hlist] at hnested
      obtain ⟨found, hfound, hruns⟩ := flowAt?_eq_some_iff.mp hflow
      rw [hat.inner] at hfound
      cases hfound
      have hnone := hpristine _ around entered inner flow hnested hwork.flowAt? hat.current
        hat.inner hopen hruns
      rw [hcurrent] at hnone
      cases hnone
  · cases hhead : s.active.head? with
    | none =>
        rw [turn_of_not_running (.inr hhead)] at hturn
        cases hturn
        exact ⟨flow, child, hflow, hcurrent⟩
    | some scope =>
        obtain ⟨innermost, outer, hlist, hnested, hbound⟩ := hsound.head hhead
        have hne : innermost ≠ id := by
          rintro rfl
          exact hidle (hnested.running hsound.wired (hlist ▸ List.suffix_rfl))
        have hold : id ≠ s.nextTask := by
          obtain ⟨task, htask, -⟩ := flowAt?_eq_some_iff.mp hflow
          exact TaskId.ne_of_lt (taskAt?_lt htask)
        refine ⟨flow, child, ?_, hcurrent⟩
        rw [hturned.flowAt?_of_ne hsound.wired hhead hbound hne hold, hflow]

theorem Cut.act {task : TaskId} (hcut : s.Cut id) (hsound : s.Sound) (hact : Act task s s') :
    s'.Cut id := by
  obtain ⟨hidle, flow, child, hflow, hcurrent⟩ := hcut
  have hwired' := hact.wired hsound
  rcases hact.quiet_or_returned with hquiet | ⟨found, entry, target, -, -, htarget, rfl⟩
  · refine ⟨fun hrunning => hidle (hrunning.of_suffix hsound hact.grows hwired' ?_), flow, child,
      ?_, hcurrent⟩
    · exact hquiet.active ▸ List.suffix_rfl
    · obtain ⟨self, hself, hruns⟩ := flowAt?_eq_some_iff.mp hflow
      have hself' := hquiet.flows hself (by rw [Task.isFlow, hruns]; rfl)
      exact flowAt?_eq_some_iff.mpr ⟨self, hself', hruns⟩
  · rcases hsound.nested with hempty | ⟨innermost, hchain⟩
    · rw [hempty] at htarget
      cases htarget
    · obtain ⟨-, outer, hsuffix, hentry⟩ := hchain.of_returnTarget? hsound.wired htarget
      have hrestored := restored hsound.wired hsound.active hchain hsuffix hentry
      refine ⟨fun hrunning => hidle (hrunning.of_suffix hsound hact.grows hwired' ?_), flow, child,
        ?_, hcurrent⟩
      · exact hrestored.active ▸ hsuffix
      · have hne : entry.flow ≠ id := by
          rintro rfl
          exact hidle (hentry.running hsound.wired hsuffix)
        rw [flowAt?_emit, flowAt?_restore, if_neg hne, hflow]

theorem Moves.cut (hmoves : Relation.ReflTransGen Move s s') (hsound : s.Sound)
    (hsteady : s.Steady) (hcut : s.Cut id) : s'.Cut id := by
  induction hmoves with
  | refl => exact hcut
  | @tail r s' hbefore hmove ih =>
      have hsound' := Moves.sound hbefore hsound
      cases hmove with
      | turn hturn => exact ih.turn hsound' (Moves.steady hbefore hsound hsteady).pristine hturn
      | act hact => exact ih.act hsound' hact
      | breakpoint name =>
          have hwired' := ((Move.breakpoint name).sound hsound').wired
          exact ⟨fun hrunning => ih.idle (hrunning.of_suffix hsound' (grows_setBreakpoint r name)
            hwired' List.suffix_rfl), ih.holds⟩

/-! ## From the opening of a screen to its record -/

/-- A running flow with a child that was there before had it open all along, and opens its tasks in
the same state. -/
theorem Moves.keeps {flow : Flow} {child : Child} (hmoves : Relation.ReflTransGen Move s s')
    (hsound : s.Sound) (hsteady : s.Steady) (hold : child.task.index < s.tasks.size)
    (hrunning : s'.Running id) (hflow : s'.flowAt? id = some flow)
    (hcurrent : flow.current = some child) :
    ∃ before first, s.flowAt? id = some before ∧ before.current = some first ∧
      first.task = child.task ∧ s'.ambient id flow = s.ambient id before := by
  induction hmoves generalizing flow child with
  | refl => exact ⟨flow, child, hflow, hcurrent, rfl, rfl⟩
  | @tail r s' hbefore hmove ih =>
      have hsound' := Moves.sound hbefore hsound
      have hsteady' := Moves.steady hbefore hsound hsteady
      have hgrows := hmove.grows
      have hkept : ∀ {flow₁ child₁}, Keeps r s' id flow₁ flow child₁ →
          ∃ before first, s.flowAt? id = some before ∧ before.current = some first ∧
            first.task = child.task ∧ s'.ambient id flow = s.ambient id before := by
        intro flow₁ child₁ hkeeps
        have hsame : child.task = child₁.task := by
          rcases hkeeps.child_eq hcurrent with rfl | rfl <;> rfl
        obtain ⟨before, first, hbefore, hfirst, htask, hambient⟩ :=
          ih (hsame ▸ hold) hkeeps.running hkeeps.before hkeeps.current
        exact ⟨before, first, hbefore, hfirst, htask.trans hsame.symm,
          (hkeeps.ambient hgrows).trans hambient⟩
      cases hmove with
      | turn hturn =>
          rcases keeps_turn hturn hsound' hsteady'.pristine hrunning hflow hcurrent with
            ⟨flow₁, child₁, hkeeps⟩ | ⟨scope, flow₁, decl, activity, hat, -, -, rfl⟩
          · exact hkept hkeeps
          · -- A child that has just been opened was not there before.
            rw [flowAt?_openChild hat] at hflow
            cases hflow
            cases hcurrent
            have hle := (Moves.grows hbefore).tasks_size
            exact absurd hold (Nat.not_lt.mpr hle)
      | act hact =>
          obtain ⟨child₁, hkeeps⟩ := keeps_act hact hsound' hrunning hflow hcurrent
          exact hkept hkeeps
      | breakpoint name =>
          have hwired' := ((Move.breakpoint name).sound hsound').wired
          have hrunning' := hrunning.of_suffix hsound' hgrows hwired' List.suffix_rfl
          exact hkept (keeps_of_same hflow hrunning' hcurrent rfl)

/-- A child that waits for input is handed out. -/
theorem AtChild.turn_of_requiresInput {scope : ScopeId} {flow : Flow} {child : Child} {inner : Task}
    (hat : s.AtChild scope id flow child inner) (hinput : inner.requiresInput = true) :
    ∃ marked, s.turn = (.ok (.handOut child.task), marked) ∧
      (marked = s ∨ marked = s.markInterrupted id) := by
  rw [hat.turn_eq]
  split_ifs
  · exact ⟨_, rfl, .inr rfl⟩
  · exact ⟨s, rfl, .inl rfl⟩

theorem requiresInput_of_screen {task : Task} {screen : Screen}
    (hopen : task.complete = false) (hscreen : task.activity = .screen screen) :
    task.requiresInput = true := by
  simp [Task.requiresInput, hopen, hscreen]

/-- A task was a screen from the start. -/
theorem IsScreen.of_grows {task : Task} (hscreen : s'.IsScreen id) (hgrows : Grows s s')
    (htask : s.taskAt? id = some task) : ∃ screen, task.activity = .screen screen := by
  obtain ⟨found, screen, hfound, hactivity⟩ := hscreen
  obtain ⟨task', htask', hskeleton, -⟩ := hgrows.tasks htask
  rw [hfound] at htask'
  cases htask'
  have hsort := Task.activity_of_skeleton hskeleton
  rw [hactivity] at hsort
  cases hfirst : task.activity with
  | screen old => exact ⟨old, rfl⟩
  | _ =>
      rw [hfirst] at hsort
      cases hsort

/-- A screen that the turns of a pull open is open when the pull ends: it is still the child of its
flow, in the state in which the flow opens its tasks. -/
theorem Turns.opened {count : Nat} {screen : TaskId} (hturns : Turns count s s') (hsound : s.Sound)
    (hanswer : Turn.answer? s'.turn.1 ≠ none) (hnew : s.tasks.size ≤ screen.index)
    (hscreen : s'.IsScreen screen) :
    ∃ scope owner flow child inner, s'.AtChild scope owner flow child inner ∧ child.task = screen ∧
      inner.requiresInput = true ∧ s'.stateOf inner = s'.ambient owner flow := by
  induction hturns with
  | refl =>
      obtain ⟨task, found, htask, -⟩ := hscreen
      exact absurd (taskAt?_lt htask) (Nat.not_lt.mpr hnew)
  | @turn count s s₁ s₂ hturn hrest ih =>
      have hturned := turned hturn
      by_cases hfirst : screen.index < s₁.tasks.size
      · rcases hturned.tasks_size with hsize | ⟨scope, owner, flow, decl, activity, hat, -, -, rfl⟩
        · omega
        · have hat' := hat.atChild_openChild hturned.grows
          have hself : screen = s.nextTask := by
            rw [(openChild_others s owner flow decl activity).2.2.2.2.2.2.2.1] at hfirst
            apply TaskId.index_inj.mp
            change screen.index = s.tasks.size
            omega
          subst hself
          obtain ⟨found, hfound⟩ := hscreen.of_grows (Moves.grows hrest.moves) hat'.inner
          have hinput := requiresInput_of_screen rfl hfound
          cases hrest with
          | refl =>
              refine ⟨scope, owner, _, _, _, hat', rfl, hinput, ?_⟩
              rw [stateOf_openChild, hat.ambient_openChild hsound.wired hturned.grows]
          | turn hturn' =>
              obtain ⟨marked, hhanded, -⟩ := hat'.turn_of_requiresInput hinput
              rw [hhanded] at hturn'
              cases hturn'
      · exact ih (hturned.sound hsound) hanswer (Nat.not_lt.mp hfirst) hscreen

/-- Marking the child of a flow changes neither the child nor the state in which the flow opens its
tasks. -/
theorem AtChild.markInterrupted {scope : ScopeId} {flow : Flow} {child : Child} {inner : Task}
    (hat : s.AtChild scope id flow child inner) :
    (s.markInterrupted id).flowAt? id = some flow.interrupted ∧
      flow.interrupted.current = some { child with interrupted := true } ∧
      (s.markInterrupted id).ambient id flow.interrupted = s.ambient id flow := by
  obtain ⟨task, hwork⟩ := hat.working
  refine ⟨?_, ?_, ?_⟩
  · rw [markInterrupted_eq, flowAt?_modifyFlow_self, hwork.flowAt?]
    rfl
  · rw [Flow.interrupted, hat.current]
    rfl
  · have haround : (s.markInterrupted id).around id flow.interrupted = s.around id flow := by
      rw [markInterrupted_eq]
      exact around_congr rfl (scopeOf_modifyFlow s id _ id)
    rw [ambient, ambient, haround]
    rfl

/-- A screen that an operation opens is then the child of its flow, in the state in which the flow
opens its tasks. -/
theorem Step.opened {screen : TaskId} {task : Task} (hstep : Step s s') (hsound : s.Sound)
    (hnew : s.tasks.size ≤ screen.index) (htask : s'.taskAt? screen = some task)
    (hscreen : s'.IsScreen screen) :
    ∃ owner flow child, s'.flowAt? owner = some flow ∧ flow.current = some child ∧
      child.task = screen ∧ task.owner = some owner ∧ s'.stateOf task = s'.ambient owner flow := by
  have hlt := taskAt?_lt htask
  have hold : s'.tasks.size ≠ s.tasks.size := by omega
  cases hstep with
  | pulled hpull hanswer =>
      obtain ⟨count, r, result, hturns, hlast, hfound⟩ := exists_last_turn hpull hanswer
      have hturned := turned hlast
      have hsound' := Moves.sound hturns.moves hsound
      rcases hturned.tasks_size with hsize | ⟨scope, owner, flow, decl, activity, hat, -, rfl, -⟩
      · have hthere : screen.index < r.tasks.size := hsize ▸ hlt
        have hbefore : r.taskAt? screen = some r.tasks[screen.index] :=
          Array.getElem?_eq_getElem hthere
        obtain ⟨found, hfirst⟩ := hscreen.of_grows hturned.grows hbefore
        obtain ⟨scope, owner, flow, child, inner, hat, rfl, hinput, hstate⟩ :=
          hturns.opened hsound (by rw [hlast, hfound]; simp) hnew ⟨_, _, hbefore, hfirst⟩
        obtain ⟨-, howner, -⟩ := hat.places hsound'.wired
        obtain ⟨working, hwork⟩ := hat.working
        obtain ⟨marked, hhanded, hmarked⟩ := hat.turn_of_requiresInput hinput
        rw [hlast] at hhanded
        cases hhanded
        obtain ⟨found, hinner, hskeleton, -⟩ := hturned.grows.tasks hat.inner
        rw [htask] at hinner
        cases hinner
        have howner' := (Task.owner_of_skeleton hskeleton).trans howner
        rcases hmarked with rfl | rfl
        · rw [hat.inner] at htask
          cases htask
          exact ⟨owner, flow, child, hwork.flowAt?, hat.current, rfl, howner, hstate⟩
        · obtain ⟨hflow', hcurrent', hambient⟩ := hat.markInterrupted
          refine ⟨owner, _, _, hflow', hcurrent', rfl, howner', ?_⟩
          rw [hambient, ← hstate, stateOf, stateOf, Task.scope_of_skeleton hskeleton]
          rfl
      · -- The turn that opens a task leads on to another turn.
        cases hfound
  | filledIn id field value => exact absurd (fillIn_acts s id field value).tasks_size hold
  | clicked id component => exact absurd (click_acts s id component).tasks_size hold
  | answered id value => exact absurd (answer_acts s id value).tasks_size hold
  | breakpointSet name => exact absurd rfl hold

/-! ## The record -/

/-- A click leaves the trees of every flow alone. -/
theorem Quiet.scope_eq {owner : TaskId} {flow : Flow} (hquiet : Quiet id s s') (hwired : s.Wired)
    (hflow : s.flowAt? owner = some flow) :
    s'.scope (s.scopeOf owner) = s.scope (s.scopeOf owner) ∧
      ∀ pass, flow.pass = some pass → s'.scope pass = s.scope pass := by
  obtain ⟨task, htask, hruns⟩ := flowAt?_eq_some_iff.mp hflow
  constructor
  · rcases hquiet.scopes (s.scopeOf owner) with hsame | ⟨other, hother, hinput, hscope⟩
    · rw [Session.scope_eq, hsame]
      rfl
    · rw [scopeOf_eq_of_taskAt? htask] at hscope
      cases hwired.eq_of_scope_eq hother htask hscope
      rw [htask] at hother
      cases hother
      have hisFlow := Task.isFlow_of_takesInput hinput
      rw [Task.isFlow, hruns] at hisFlow
      cases hisFlow
  · intro pass hpass
    have haround : s.around owner flow = pass := by rw [around_eq, hpass, Option.getD_some]
    rcases hquiet.scopes pass with hsame | ⟨other, hother, hinput, hscope⟩
    · rw [Session.scope_eq, hsame]
      rfl
    · exact absurd (haround.trans hscope.symm)
        (hwired.around_ne hflow hother (Task.isFlow_of_takesInput hinput))

theorem visitAt_eq {owner : TaskId} {flow : Flow} (hgrows : Grows s s')
    (hflow : s.flowAt? owner = some flow)
    (hscope : s'.scope (s.scopeOf owner) = s.scope (s.scopeOf owner))
    (hpass : ∀ pass, flow.pass = some pass → s'.scope pass = s.scope pass) (child : Child)
    (screen : String) :
    s'.visitAt owner flow child screen = s.visitAt owner flow child screen := by
  obtain ⟨task, htask, -⟩ := flowAt?_eq_some_iff.mp hflow
  unfold visitAt
  rw [hgrows.scopeOf htask, hscope]
  cases hopen : flow.pass with
  | none => rfl
  | some pass =>
      simp only [Option.map_some]
      rw [hpass pass hopen]

/-- A click on the child of a flow records that flow as it stood before the click. -/
theorem Still.visitOf_eq {owner : TaskId} {flow found : Flow} {child : Child} {entry : Visit}
    (hstill : Still id s s') (hwired : s.Wired) (hflow : s.flowAt? owner = some flow)
    (hcurrent : flow.current = some child) (hchild : child.task = id)
    (hvisit : s'.visitOf id = .ok (some (found, entry))) :
    found = flow ∧ ∃ screen, entry = s.visitAt owner flow child screen := by
  have hgrows := Moves.grows hstill.acts.moves
  obtain ⟨task', owner', child', htask', howner', hflow', hcurrent', -, rfl⟩ :=
    visitOf_eq_some hvisit
  obtain ⟨task, htask, -, howner⟩ := (hwired.linked hflow).child hcurrent
  rw [hchild] at htask
  obtain ⟨found', hfound', hskeleton, -⟩ := hgrows.tasks htask
  rw [htask'] at hfound'
  cases hfound'
  rw [Task.owner_of_skeleton hskeleton, howner] at howner'
  cases howner'
  rw [hstill.quiet.flowAt? hflow] at hflow'
  cases hflow'
  rw [hcurrent] at hcurrent'
  cases hcurrent'
  obtain ⟨hscope, hpass⟩ := hstill.quiet.scope_eq hwired hflow
  exact ⟨rfl, task'.name, visitAt_eq hgrows hflow hscope hpass child task'.name⟩

/-- A running flow whose child is no flow is the innermost one. -/
theorem Running.nested {flow : Flow} {child : Child} {inner : Task} (hrunning : s.Running id)
    (hsound : s.Sound) (hflow : s.flowAt? id = some flow) (hcurrent : flow.current = some child)
    (hinner : s.taskAt? child.task = some inner) (hleaf : inner.isFlow = false) :
    s.Nested id s.active.toList := by
  obtain ⟨innermost, hchain⟩ := hsound.nested.resolve_left hrunning.nonempty
  obtain ⟨scope, outer, hsuffix, hself⟩ := hrunning
  rcases hchain.cases_of_suffix hsound.wired hself hsuffix with rfl | ⟨task, found, child', inner',
    htask, -, hruns, hcurrent', hinner', hisFlow, -⟩
  · exact hchain
  · have hsame := flowAt?_eq_some_iff.mpr ⟨task, htask, hruns⟩
    rw [hflow] at hsame
    cases hsame
    rw [hcurrent] at hcurrent'
    cases hcurrent'
    rw [hinner] at hinner'
    cases hinner'
    rw [hleaf] at hisFlow
    cases hisFlow

/-! ## Standing where it stood -/

/-- The flow `owner`, with its trees and the call stack, is back where it was in the session `c`, in
which it was `flow`, to open the task at `place` again. -/
structure BackAt (g c : Session) (owner : TaskId) (flow : Flow) (place : Nat) : Prop where
  stack : g.active.toList = c.active.toList
  state : (g.scope (g.scopeOf owner)).state = (c.scope (c.scopeOf owner)).state
  result : (g.scope (g.scopeOf owner)).result = (c.scope (c.scopeOf owner)).result
  flow : ∃ back, g.flow owner = .ok back ∧ back.StandsAt flow place ∧
    (flow.pass = none → back.pass = none) ∧
    ∀ pass, flow.pass = some pass → ∃ again, back.pass = some again ∧
      (g.scope again).state = (c.scope pass).state ∧
      (g.scope again).result = (c.scope pass).result

/-- Restoring the record of a flow that has kept its snapshots puts it back. -/
theorem Nested.backAt {c : Session} {flow now : Flow} {child : Child} {screen : String}
    {target : ScopeId} {outer : List ScopeId} (hchain : c.Nested id c.active.toList)
    (hwired : c.Wired) (htidy : c.Tidy) (hgrows : Grows c s) (hsound : s.Sound)
    (hnow : s.flowAt? id = some now)
    (hbegins : flow.snapshots <+: now.snapshots) (hsuffix : target :: outer <:+ s.active.toList)
    (hself : s.Nested id (target :: outer)) :
    (s.restore target (c.visitAt id flow child screen)).BackAt c id flow child.place := by
  have hself' : s.Nested (c.visitAt id flow child screen).flow (target :: outer) := hself
  obtain ⟨innermost, hinnermost⟩ := hsound.nested.resolve_left
    (hself.running hsound.wired hsuffix).nonempty
  have hrestored := restored hsound.wired hsound.active hinnermost hsuffix hself'
  obtain ⟨task, htask, -⟩ := flowAt?_eq_some_iff.mp hnow
  have htarget := hself.scopeOf_eq hsound.wired
  have hscope : (s.restore target (c.visitAt id flow child screen)).scopeOf id = target := by
    rw [(grows_restore s target _).scopeOf htask, htarget]
  obtain ⟨found, hfound⟩ := hsound.wired.exists_scopeAt? htask
  rw [htarget] at hfound
  have htrees := hrestored.trees
  rw [hfound] at htrees
  obtain ⟨pass, htasks, hnone, hpass⟩ := hrestored.flow
  refine ⟨?_, ?_, ?_, now.returnTo (flow.markAt child.place) pass, ?_,
    ⟨rfl, rfl, rfl, rfl, rfl, ?_⟩, ?_, ?_⟩
  · rw [hrestored.active]
    exact hchain.unique hself hwired hsound.wired hgrows
  · rw [hscope, scope_eq_of_scopeAt? htrees]
    rfl
  · rw [hscope, scope_eq_of_scopeAt? htrees]
    rfl
  · have hown : (c.visitAt id flow child screen).flow = id := rfl
    obtain ⟨self, hfirst, hruns⟩ := flowAt?_eq_some_iff.mp hnow
    have hlater := htasks id
    rw [if_pos hown, hfirst, Option.map_some] at hlater
    refine flow_eq_ok_iff.mpr (flowAt?_eq_some_iff.mpr ⟨_, hlater, ?_⟩)
    rw [Task.flow?_mapFlow, hruns]
    rfl
  · exact (List.prefix_iff_eq_take.mp hbegins).symm
  · intro hclosed
    exact hnone (by rw [visitAt, hclosed]; rfl)
  · intro open' hopen
    obtain ⟨again, scope, hagain, hat, hstate, hresult⟩ :=
      hpass _ (by rw [visitAt, hopen]; rfl)
    refine ⟨again, hagain, ?_, ?_⟩
    · rw [scope_eq_of_scopeAt? hat, hstate]
    · rw [scope_eq_of_scopeAt? hat, hresult]
      exact Value.empty_merge_of_sorted (htidy.scope open')

/-- A flow at the declaration of a screen opens the screen and hands it out. -/
theorem AtStep.pull_of_screen {scope : ScopeId} {flow : Flow} {decl : TaskDecl} {screen : Screen}
    (hat : s.AtStep scope id flow (.openTask decl)) (hshows : s.shows id flow decl = .ok true)
    (hactivity : s.repository.activity decl (s.ambient id flow) = .ok (.screen screen)) :
    ∃ s' task, s.pull = (.task s.nextTask, s') ∧ s'.task s.nextTask = .ok task ∧
      task.name = decl.name ∧ task.owner = some id ∧ s'.stateOf task = s.ambient id flow := by
  have hopened := hat.turn_of_opened hshows hactivity
  have hat' := hat.atChild_openChild (Session.turned hopened).grows
  obtain ⟨marked, hlast, hmarked⟩ :=
    hat'.turn_of_requiresInput (requiresInput_of_screen rfl rfl)
  have hpull := pull_of_turns (.single hopened) hlast rfl (s.lt_turnLimit (by decide))
  have hstate := stateOf_openChild s id flow decl (.screen screen)
  rcases hmarked with rfl | rfl
  · exact ⟨_, _, hpull, task_eq_ok_iff.mpr hat'.inner, rfl, rfl, hstate⟩
  · obtain ⟨task, hwork⟩ := hat.working
    have hne : id ≠ s.nextTask := TaskId.ne_of_lt (taskAt?_lt hwork.here)
    refine ⟨_, _, hpull, task_eq_ok_iff.mpr ?_, rfl, rfl, hstate⟩
    rw [markInterrupted_eq, taskAt?_modifyFlow, if_neg hne]
    exact hat'.inner

/-- A flow that is back where it stood opens what it had open. -/
theorem BackAt.atStep {c g : Session} {flow : Flow} {child : Child} {decl : TaskDecl} {inner : Task}
    {activity : Activity} (hback : g.BackAt c id flow child.place) (hsound : g.Sound)
    (hrest : g.Resting) (hredirected : g.redirectedTo = none) (hgrows : Grows c g)
    (hflow : c.flowAt? id = some flow) (hchain : c.Nested id c.active.toList) (hwired : c.Wired)
    (hundisturbed : c.Undisturbed id flow child decl inner activity) :
    ∃ scope back, g.AtStep scope id back (.openTask decl) ∧
      g.ambient id back = c.ambient id flow := by
  obtain ⟨hstack, hstate, -, back, hfound, hstands, hnone, hpass⟩ := hback
  have hback := flow_eq_ok_iff.mp hfound
  obtain ⟨task, htask, -⟩ := flowAt?_eq_some_iff.mp hflow
  obtain ⟨outer, hlist⟩ := hchain.eq_cons hwired
  have hhead : g.active.head? = some (c.scopeOf id) := by
    rw [Cursor.head?_eq hsound.active, hstack, hlist]
    rfl
  have hbound : (g.scope (c.scopeOf id)).flow = some id := by
    rw [hlist] at hchain
    exact hgrows.scope_flow (hchain.flow_scope hwired)
  obtain ⟨self, hself, hopen⟩ := hrest _ _ hhead hbound
  have hruns : self.flow? = some back := by
    rw [flowAt?, hself] at hback
    exact hback
  obtain ⟨later, hlater, hskeleton⟩ := hgrows.flowAt? hflow
  rw [hback] at hlater
  cases hlater
  obtain ⟨hdefinition, hrepetition, -⟩ := Flow.of_skeleton hskeleton
  obtain ⟨declared, hdeclared, hdecl⟩ := hundisturbed.declared
  refine ⟨c.scopeOf id, back, ⟨⟨self, hredirected, hhead, hbound, hself, hopen, hruns⟩,
    hstands.current, declared, ?_, ?_⟩, ?_⟩
  · rw [hdefinition, hgrows.repository]
    exact hdeclared
  · apply Flow.nextStep_eq_openTask_iff.mpr
    refine ⟨?_, fun hloop => ?_, ?_⟩
    · rw [hstands.broke]
      exact hundisturbed.calm
    · rw [Flow.isLoop, hrepetition] at hloop
      obtain ⟨pass, hopen'⟩ := Option.isSome_iff_exists.mp (hundisturbed.within hloop)
      obtain ⟨again, hagain, -⟩ := hpass pass hopen'
      rw [hagain]
      rfl
    · rw [hstands.cursor]
      exact hdecl
  · rw [ambient, ambient, around_eq, around_eq]
    cases hopen' : flow.pass with
    | none =>
        rw [hnone hopen']
        exact hstate
    | some pass =>
        obtain ⟨again, hagain, hsame, -⟩ := hpass pass hopen'
        rw [hagain]
        exact hsame

/-! ## Going back restores what was recorded -/

/-- A click that changes the history is one on a screen. -/
theorem isScreen_of_click {component : String}
    (hchanged : (s.click id component).2.historyDepth ≠ s.historyDepth) : s.IsScreen id := by
  cases hopen : s.openScreen id with
  | error error =>
      rw [click, hopen] at hchanged
      exact absurd rfl hchanged
  | ok found =>
      obtain ⟨htask, hactivity, -⟩ := openScreen_eq_ok hopen
      exact ⟨found.1, found.2, htask, hactivity⟩

/-- A click that makes a record changes neither the flow of the record nor its trees, nor the call
stack: all of them are after the click what they were when the record was made. -/
theorem Clicked.unchanged {c d : Session} {screen : TaskId} {flow : Flow} (hsound : c.Sound)
    (hflow : c.flowAt? id = some flow) (hleft : Clicked c screen d)
    (hpushed : c.historyDepth < d.historyDepth) :
    d.active = c.active ∧ d.flowAt? id = some flow ∧ d.scopeOf id = c.scopeOf id ∧
      d.scope (c.scopeOf id) = c.scope (c.scopeOf id) ∧
      ∀ pass, flow.pass = some pass → d.scope pass = c.scope pass := by
  obtain ⟨r, found, entry, hbefore, hvisit, hafter⟩ := hleft.recorded_of_lt hsound hpushed
  have hgrows := Moves.grows hbefore.acts.moves
  have hflow_r := hbefore.quiet.flowAt? hflow
  have hflow_m : (r.remember found entry).flowAt? id = some flow := hflow_r
  obtain ⟨task, htask, -⟩ := flowAt?_eq_some_iff.mp hflow
  obtain ⟨task', htask', -⟩ := flowAt?_eq_some_iff.mp hflow_m
  have hscopeOf : (r.remember found entry).scopeOf id = c.scopeOf id := hgrows.scopeOf htask
  have hwired_m := ((Move.act (.recorded hvisit)).sound
    (Moves.sound hbefore.acts.moves hsound)).wired
  obtain ⟨hscope, hpass⟩ := hbefore.quiet.scope_eq hsound.wired hflow
  obtain ⟨hscope', hpass'⟩ := hafter.quiet.scope_eq hwired_m hflow_m
  rw [hscopeOf] at hscope'
  refine ⟨hafter.quiet.active.trans hbefore.quiet.active, hafter.quiet.flowAt? hflow_m, ?_,
    hscope'.trans hscope, fun pass hopen => (hpass' pass hopen).trans (hpass pass hopen)⟩
  rw [(Moves.grows hafter.acts.moves).scopeOf htask', hscopeOf]

/-- A click on the child of a flow makes a record, and a later click goes back to this very record.
Then the flow, its trees and the call stack are what they were when the record was made. -/
theorem Clicked.backAt {c d f g : Session} {screen requester : TaskId} {flow : Flow} {child : Child}
    (hsound : c.Sound) (hsteady : c.Steady) (htidy : c.Tidy) (hflow : c.flowAt? id = some flow)
    (hcurrent : flow.current = some child) (hchild : child.task = screen)
    (hleaf : ∃ inner, c.taskAt? child.task = some inner ∧ inner.isFlow = false)
    (hleft : Clicked c screen d) (hpushed : c.historyDepth < d.historyDepth) (hrun : d.Run f)
    (hentry : f.history.handle = d.history.handle) (hback : Clicked f requester g)
    (hpopped : g.historyDepth < f.historyDepth) :
    c.Nested id c.active.toList ∧ g.BackAt c id flow child.place ∧
      g.redirectedTo = f.redirectedTo := by
  obtain ⟨r, found, entry, hbefore, hvisit, hafter⟩ := hleft.recorded_of_lt hsound hpushed
  obtain ⟨rfl, name, rfl⟩ := hbefore.visitOf_eq hsound.wired hflow hcurrent hchild hvisit
  have hsound_r := Moves.sound hbefore.acts.moves hsound
  have hrecorded : Move r (r.remember found (c.visitAt id found child name)) :=
    .act (.recorded hvisit)
  have hsound_m := hrecorded.sound hsound_r
  have hmoves := hafter.acts.moves.trans hrun.moves
  have hsound_f := Moves.sound hmoves hsound_m
  obtain ⟨q, task, visit, target, hquiet, htask, hhead, htarget, rfl⟩ :=
    hback.returned_of_lt hsound_f hpopped
  have hsound_q := Moves.sound hquiet.acts.moves hsound_f
  -- The record that is gone back to is the one that was made.
  have hguarded := Moves.guarded (hmoves.trans hquiet.acts.moves) hsound_m
    (guarded_remember hsound_r.history hvisit)
  have hhandle : q.history.handle =
      (r.remember found (c.visitAt id found child name)).history.handle := by
    rw [hquiet.history, hentry, hafter.history]
  have hsame : visit = c.visitAt id found child name := by
    have hfirst := hguarded.head
    rw [← hhandle] at hfirst
    exact Option.some.inj (hhead.symm.trans hfirst)
  subst hsame
  obtain ⟨⟨now, hnow, hbegins⟩, -⟩ := hguarded.kept [] (hhandle ▸ .refl _)
  obtain ⟨innermost, hchain⟩ := hsound_q.nested.resolve_left (by
    intro hempty
    rw [hempty] at htarget
    cases htarget)
  obtain ⟨-, outer, hsuffix, hself⟩ := hchain.of_returnTarget? hsound_q.wired htarget
  -- Its flow was being run when the record was made, because it is being run now.
  have hall : Relation.ReflTransGen Move c q :=
    (hbefore.acts.moves.tail hrecorded).trans (hmoves.trans hquiet.acts.moves)
  have hrunning : c.Running id := by
    apply Classical.not_not.mp
    intro hidle
    have hcut := Moves.cut hall hsound hsteady ⟨hidle, found, child, hflow, hcurrent⟩
    exact hcut.idle (Nested.running hself hsound_q.wired hsuffix)
  obtain ⟨inner, hinner, hnoFlow⟩ := hleaf
  have hnested := hrunning.nested hsound hflow hcurrent hinner hnoFlow
  refine ⟨hnested, ?_, ?_⟩
  · have hrestored : (q.restore target (c.visitAt id found child name)).BackAt c id found
        child.place :=
      hnested.backAt hsound.wired htidy (Moves.grows hall) hsound_q hnow hbegins hsuffix hself
    exact ⟨hrestored.stack, hrestored.state, hrestored.result, hrestored.flow⟩
  · change (q.restore target _).redirectedTo = _
    rw [(restore_others q target _).2.2.2.2.2.1, hquiet.quiet.redirectedTo]

end

/-- A screen is opened, and later a click on it makes a record for the flow that has it open; after
any further operations a click goes back to this very record, and nothing was redirected.  Then the
cursor of the flow is at the declaration of the screen, the call stack, the flow and the trees of
the flow and of its pass are those of the record, and the next pull opens and hands out the screen
again, as a new task in the state in which the screen was opened first. -/
theorem back_restores_record {a b c d f g : Session} {screen requester owner : TaskId}
    {left pressed : String} {opened : Task} {flow : Flow} {child : Child} (hreach : a.Reachable)
    (hopened : a.Step b) (hnew : a.tasks.size ≤ screen.index) (hscreen : b.task screen = .ok opened)
    (hkept : b.Run c) (hflow : c.flow owner = .ok flow) (hcurrent : flow.current = some child)
    (hchild : child.task = screen) (hleft : (c.click screen left).2 = d)
    (hpushed : d.historyDepth = c.historyDepth + 1) (hrun : d.Run f)
    (hentry : f.history.handle = d.history.handle) (hback : (f.click requester pressed).2 = g)
    (hpopped : g.historyDepth < f.historyDepth) (hredirected : f.redirectedTo = none) :
    (d.active = c.active ∧ d.flow owner = .ok flow ∧
      d.scope (d.scopeOf owner) = c.scope (c.scopeOf owner) ∧
      ∀ pass, flow.pass = some pass → d.scope pass = c.scope pass) ∧
    (∃ declared decl, Keyed.get? flow.definition c.repository.flows = some declared ∧
      declared.tasks[child.place]? = some decl ∧ decl.name = opened.name) ∧
    g.BackAt c owner flow child.place ∧
    ∃ id task h, g.pull = (.task id, h) ∧ g.tasks.size ≤ id.index ∧ h.task id = .ok task ∧
      task.name = opened.name ∧ task.owner = some owner ∧ h.stateOf task = b.stateOf opened := by
  have hreach_b := hreach.step hopened
  have hreach_c := hreach_b.run hkept
  have hstep_d : c.Step d := hleft ▸ .clicked screen left
  have hreach_f := (hreach_c.step hstep_d).run hrun
  have hreach_g : g.Reachable := hreach_f.step (hback ▸ .clicked requester pressed)
  have hsound := hreach_c.sound
  have hflow' := flow_eq_ok_iff.mp hflow
  have hleft' : Clicked c screen d := hleft ▸ click_clicked c screen left
  have hback' : Clicked f requester g := hback ▸ click_clicked f requester pressed
  have hlonger : c.historyDepth < d.historyDepth := by omega
  have hgrows : Grows c g :=
    (Run.grows (.head hstep_d hrun)).trans
      (Moves.grows (Step.moves (hback ▸ .clicked requester pressed)))
  -- The screen is the same task all along.
  have hscreen' : c.IsScreen screen := isScreen_of_click (by rw [hleft]; omega)
  obtain ⟨inner, hinner, -, howner⟩ := (hsound.wired.linked hflow').child hcurrent
  obtain ⟨first, hfirst⟩ := hscreen'.of_grows hkept.grows (task_eq_ok_iff.mp hscreen)
  obtain ⟨last, hlast⟩ := hscreen'.of_grows (.refl c) (hchild ▸ hinner)
  obtain ⟨found, hfound, hskeleton, -⟩ := hkept.grows.tasks (task_eq_ok_iff.mp hscreen)
  rw [← hchild, hinner] at hfound
  cases hfound
  have hleaf : inner.isFlow = false := by simp [Task.isFlow, Task.flow?, hlast]
  obtain ⟨hnested, hbackAt, hsame⟩ := hleft'.backAt hsound hreach_c.steady hreach_c.tidy hflow'
    hcurrent hchild ⟨inner, hinner, hleaf⟩ hlonger hrun hentry hback' hpopped
  have hrunning := hnested.running hsound.wired List.suffix_rfl
  obtain ⟨decl, inner', activity, hundisturbed⟩ :=
    hreach_c.steady.undisturbed owner flow child hrunning hflow' hcurrent
  have hinner' := hundisturbed.here
  rw [hinner] at hinner'
  cases hinner'
  have hname : decl.name = opened.name :=
    hundisturbed.name.symm.trans (Task.name_of_skeleton hskeleton)
  obtain ⟨declared, hdeclared, hdecl⟩ := hundisturbed.declared
  refine ⟨?_, ⟨declared, decl, hdeclared, hdecl, hname⟩, hbackAt, ?_⟩
  · obtain ⟨hactive, hflow_d, hscopeOf, hscope, hpass⟩ := hleft'.unchanged hsound hflow' hlonger
    exact ⟨hactive, flow_eq_ok_iff.mpr hflow_d, by rw [hscopeOf, hscope], hpass⟩
  · obtain ⟨screen', hactivity⟩ : ∃ screen, activity = .screen screen := by
      have hsort := hundisturbed.sort
      rw [hlast] at hsort
      cases activity with
      | screen built => exact ⟨built, rfl⟩
      | _ => cases hsort
    subst hactivity
    obtain ⟨scope, back, hat, hambient⟩ := hbackAt.atStep hreach_g.sound hreach_g.resting
      (hsame.trans hredirected) hgrows hflow' hnested hsound.wired hundisturbed
    have hshows : g.shows owner back decl = .ok true := by
      rw [shows, hambient, hgrows.judge]
      exact hundisturbed.shows
    have hbuilt : g.repository.activity decl (g.ambient owner back) = .ok (.screen screen') := by
      rw [hambient, hgrows.repository]
      exact hundisturbed.built
    obtain ⟨h, task, hpull, htask, htaskName, htaskOwner, hstate⟩ :=
      hat.pull_of_screen hshows hbuilt
    refine ⟨_, task, h, hpull, Nat.le_refl _, htask, htaskName.trans hname, htaskOwner, ?_⟩
    -- The flow has opened its tasks in the same state since it opened the screen.
    obtain ⟨owner', flow', child', hopenedFlow, hcurrent', -, howner', hopenedState⟩ :=
      hopened.opened hreach.sound hnew (task_eq_ok_iff.mp hscreen)
        ⟨opened, first, task_eq_ok_iff.mp hscreen, hfirst⟩
    rw [← Task.owner_of_skeleton hskeleton, howner] at howner'
    cases howner'
    have hold : child.task.index < b.tasks.size := hchild ▸ taskAt?_lt (task_eq_ok_iff.mp hscreen)
    obtain ⟨before, -, hbefore, -, -, hkeptState⟩ :=
      Moves.keeps hkept.moves hreach_b.sound hreach_b.steady hold hrunning hflow' hcurrent
    rw [hopenedFlow] at hbefore
    cases hbefore
    rw [hstate, hambient, hkeptState, hopenedState]

/-- A document that asks the same question for each of two items. -/
def surveyDocument : Document where
  repository :=
    { components := [
        ("back", { preconditions := [], validators := [], destination := none,
                   widget := .button "back" none "Back" .null [] }),
        ("next", { preconditions := [], validators := [], destination := none,
                   widget := .button "next" none "Next" .null [] })]
      validators := []
      flows := [
        ("each", { tasks := [
                     { name := "ask", preconditions := [],
                       action := .screen [[{ component := "back", destination := none,
                                             preconditions := none },
                                           { component := "next", destination := none,
                                             preconditions := none }]] }],
                   settings := { itemsPath := some "$.items" } }),
        ("main", { tasks := [
                     { name := "each", preconditions := [], action := .flow .forItems none }],
                   settings := {} })] }
  startingFlow := "main"
  context := .object [("items", .list [.string "first", .string "second"])]
  hash := none

/-- The session of `surveyDocument` in which the question for the first item is on the screen. -/
def firstSurvey : Session :=
  (initial surveyDocument {} true {}).pull.2

/-- The session in which that question was answered, and the one for the second item is on the
screen. -/
def secondSurvey : Session :=
  (firstSurvey.click ⟨2⟩ "next").2.pull.2

/-- Going back from the second question leads to the first one: its pass is open again, and the next
pull asks the question again. -/
theorem survey_back :
    ∃ flow, firstSurvey.flow ⟨1⟩ = .ok flow ∧ flow.passes = 1 ∧
      (secondSurvey.click ⟨3⟩ "back").2.BackAt firstSurvey ⟨1⟩ flow 0 ∧
      ∃ id task h, (secondSurvey.click ⟨3⟩ "back").2.pull = (.task id, h) ∧ h.task id = .ok task ∧
        task.name = "ask" := by
  have hstart : Session.start surveyDocument {} true = .ok (initial surveyDocument {} true {}) :=
    start_initial (by decide +kernel) rfl
  have hreach : (initial surveyDocument {} true {}).Reachable := ⟨_, _, _, _, hstart, .refl⟩
  have hfirst : (initial surveyDocument {} true {}).pull = (.task ⟨2⟩, firstSurvey) :=
    Prod.ext (by decide +kernel) rfl
  have hsecond : (firstSurvey.click ⟨2⟩ "next").2.pull = (.task ⟨3⟩, secondSurvey) :=
    Prod.ext (by decide +kernel) rfl
  obtain ⟨opened, hopened, hname⟩ : ∃ opened, firstSurvey.task ⟨2⟩ = .ok opened ∧
      opened.name = "ask" :=
    ⟨(firstSurvey.tasks[2]?).getD default, by decide +kernel, by decide +kernel⟩
  obtain ⟨flow, child, hflow, hcurrent, hchild, hplace, hpasses⟩ : ∃ flow child,
      firstSurvey.flow ⟨1⟩ = .ok flow ∧ flow.current = some child ∧ child.task = ⟨2⟩ ∧
        child.place = 0 ∧ flow.passes = 1 :=
    ⟨(firstSurvey.flow ⟨1⟩).toOption.getD default,
      ((firstSurvey.flow ⟨1⟩).toOption.bind Flow.current).getD default, by decide +kernel⟩
  have hleft : (firstSurvey.click ⟨2⟩ "next").2 = (firstSurvey.click ⟨2⟩ "next").2 := rfl
  have hpressed : (secondSurvey.click ⟨3⟩ "back").2 = (secondSurvey.click ⟨3⟩ "back").2 := rfl
  obtain ⟨-, -, hback, id, task, h, hpull, -, htask, htaskName, -, -⟩ :=
    back_restores_record hreach (.pulled hfirst (by simp)) (by decide +kernel) hopened .refl hflow
      hcurrent hchild hleft (by decide +kernel) (.single (.pulled hsecond (by simp)))
      (by decide +kernel) hpressed (by decide +kernel) (by decide +kernel)
  exact ⟨flow, hflow, hpasses, hplace ▸ hback, id, task, h, hpull, htask, htaskName.trans hname⟩

end Session

end Workflow
