import Workflow.Proofs.Interpreter.Performing
import Workflow.Proofs.Session.Retry
import Workflow.Proofs.Value.Merging

/-!
# Running the tasks of a flow

A session performs the run of a declared task in at most five turns besides those of the flow that
the task may run: the task is opened and, if it is a flow, entered and left, and then it is folded
into the flow around it.  From this the session performs the run of a whole list of tasks, one after
the other, until a break or the end of the list.

That a session performs the runs of the flows that the tasks run is a hypothesis here,
`Session.Runnable`.
-/

namespace Workflow

namespace Instruction

theorem sorted_extend {chained : Bool} {instructions : List Instruction}
    {state patch result : Value} (hsorted : Keyed.Sorted patch.fields)
    (hextend : extend chained state patch instructions = .ok result) :
    Keyed.Sorted result.fields := by
  induction instructions generalizing state patch with
  | nil =>
      cases hextend
      exact hsorted
  | cons instruction rest ih =>
      rw [extend] at hextend
      cases hwrite : instruction.write state with
      | error error =>
          rw [hwrite] at hextend
          cases hextend
      | ok written =>
          rw [hwrite] at hextend
          exact ih (Value.sorted_fields_merge hsorted written) hextend

/-- A chained patch is a tree with its fields in order. -/
theorem empty_merge_chainedPatch {instructions : List Instruction} {state patch : Value}
    (hpatch : chainedPatch instructions state = .ok patch) :
    Value.empty.merge patch = patch := by
  have hempty : Keyed.Sorted Value.empty.fields := List.Pairwise.nil
  exact Value.empty_merge_of_sorted (sorted_extend hempty hpatch)

end Instruction

namespace Flow

/-- The flow between two of its tasks. -/
def betweenTasks (flow : Flow) (cursor : Nat) (broke : Bool) : Flow :=
  { flow with cursor, current := none, broke }

/-- What a flow does when no task of it is left to be opened. -/
def endStep (flow : Flow) : FlowStep :=
  if flow.isLoop then .foldPass else .publish

theorem nextStep_eq_endStep {flow : Flow} {tasks : List TaskDecl}
    (hinside : flow.isLoop = true → flow.pass.isSome = true)
    (hended : flow.broke = true ∨ tasks[flow.cursor]? = none) :
    flow.nextStep tasks = flow.endStep := by
  unfold nextStep endStep
  cases hloop : flow.isLoop with
  | false => rcases hended with hbroke | hnone <;> simp [*]
  | true =>
      have hpass := Option.isSome_iff_ne_none.mp (hinside hloop)
      rcases hended with hbroke | hnone <;> simp [*]

end Flow

namespace Session

variable {s s' : Session} {scope : ScopeId} {id : TaskId} {flow : Flow}
  {body : Interpreter.Body}

/-- The innermost flow has not done anything yet but to start on a state. -/
structure Entered (s : Session) (scope : ScopeId) (id : TaskId) (flow : Flow) (state : Value) :
    Prop where
  between : s.Between scope id flow { state, result := .empty, broke := false }
  fresh : flow = { definition := flow.definition, repetition := flow.repetition,
                   settings := flow.settings, items := flow.items }

/-- The innermost flow is complete and ends with a result and a state. -/
structure Ended (s : Session) (scope : ScopeId) (id : TaskId) (ending : Interpreter.Ending) :
    Prop where
  running : s.redirectedTo = none
  head : s.active.head? = some scope
  bound : (s.scope scope).flow = some id
  complete : ∃ task, s.taskAt? id = some task ∧ task.complete = true
  state : (s.scope scope).state = ending.state
  result : (s.scope scope).result = ending.result

/-! ## Opening a task -/

theorem Between.ambient (hbetween : s.Between scope id flow body) :
    s.ambient id flow = body.state :=
  hbetween.state

theorem Between.shows (hbetween : s.Between scope id flow body) (decl : TaskDecl) :
    s.shows id flow decl =
      (s.repository.judge s.settings.host body.state).allPass .null decl.preconditions := by
  rw [Session.shows, Session.judge, hbetween.ambient]

/-- A task is skipped. -/
theorem Between.passOver (hbetween : s.Between scope id flow body) {decl : TaskDecl}
    (hat : s.AtStep scope id flow (.openTask decl)) (hwired : s.Wired)
    (hshows : s.shows id flow decl = .ok false) :
    Leads s (s.passOver id flow) id (s.around id flow) [] ∧
      (s.passOver id flow).Between scope id { flow with cursor := flow.cursor + 1 } body := by
  have hgrows := (Turned.skipped hat hshows).grows
  obtain ⟨-, -, -, hactive, -, hredirected, hevents, -⟩ := attempt_others s id flow
  have haround := (hat.places hwired).2.2.2.2.2
  have hne : s.around id flow ≠ s.nextScope := ScopeId.ne_of_lt haround
  refine ⟨.of_eq (hat.sameBelow_passOver hwired) hactive hevents,
    hbetween.changed hgrows hredirected hactive ?_
      (fun flow => { flow with cursor := flow.cursor + 1 }) rfl ?_⟩
  · exact scopeAt?_passOver s id flow hne
  · rw [Session.passOver, taskAt?_closeScope, taskAt?_attempt, if_pos rfl]

theorem AtStep.around_openChild {decl : TaskDecl} {activity : Activity} {step : FlowStep}
    (hat : s.AtStep scope id flow step)
    (hgrows : Grows s (s.openChild id flow decl activity)) :
    (s.openChild id flow decl activity).around id
      { flow with cursor := flow.cursor + 1, current := some (s.nextChild flow) } =
        s.around id flow := by
  obtain ⟨task, hwork⟩ := hat.working
  exact around_congr rfl (hgrows.scopeOf hwork.here)

/-- A task is opened, and has left nothing yet. -/
theorem Between.openChild (hbetween : s.Between scope id flow body) {decl : TaskDecl}
    {activity : Activity} (hat : s.AtStep scope id flow (.openTask decl)) (hwired : s.Wired)
    (hgrows : Grows s (s.openChild id flow decl activity)) :
    Leads s (s.openChild id flow decl activity) id (s.around id flow) [] ∧
      (s.openChild id flow decl activity).Within scope id
        { flow with cursor := flow.cursor + 1, current := some (s.nextChild flow) }
        (s.nextChild flow) body .empty := by
  obtain ⟨-, -, -, hactive, -, -, hevents, -⟩ := openChild_others s id flow decl activity
  have haround := (hat.places hwired).2.2.2.2.2
  have hne : s.around id flow ≠ s.nextScope := ScopeId.ne_of_lt haround
  have hat' := hat.atChild_openChild hgrows
  have hsame := hat.around_openChild hgrows
  have hscope : (s.openChild id flow decl activity).scope (s.around id flow) =
      s.scope (s.around id flow) := by
    apply scope_congr
    rw [scopeAt?_openChild, if_neg hne]
  refine ⟨.of_eq (hat.sameBelow_openChild hwired decl activity) hactive hevents,
    hat'.working, rfl, ?_, ?_, ?_⟩
  · rw [hsame, hscope, hbetween.state]
  · rw [hsame, hscope, hbetween.result]
  · have hnew : (s.nextChild flow).scope = s.nextScope := rfl
    rw [hnew, scope_eq_of_scopeAt? (by rw [scopeAt?_openChild, if_pos rfl])]
    rfl

/-! ## Running a task -/

/-- Without breakpoints, a child that waits for nothing and is no flow is run and folded. -/
theorem AtChild.turn_of_effect {child : Child} {inner : Task} {ran : Session}
    (hat : s.AtChild scope id flow child inner) (hunpaused : s.settings.breakpoints = [])
    (hinput : inner.requiresInput = false) (hleaf : inner.isFlow = false)
    (hopen : inner.complete = false) (heffect : s.effect inner = .ok ran) :
    s.turn = (.ok .again, (ran.complete child.task).foldChild id child) := by
  rw [hat.turn_eq, if_neg (by simp [hunpaused]), if_neg (by simp [hinput]),
    if_neg (by simp [hleaf]), settleChild, runChild, if_neg (by simp [hopen])]
  simp only [heffect]

/-- A child that is complete is folded. -/
theorem AtChild.turn_of_complete {child : Child} {inner : Task}
    (hat : s.AtChild scope id flow child inner) (hunpaused : s.settings.breakpoints = [])
    (hcomplete : inner.complete = true) :
    s.turn = (.ok .again, s.foldChild id child) := by
  rw [hat.turn_eq, if_neg (by simp [hunpaused]), if_neg (by simp [Task.requiresInput, hcomplete]),
    if_neg (by simp [hcomplete]), settleChild, runChild, if_pos hcomplete]

/-- The effect of a child, seen from the flow around it. -/
structure Ran (s ran : Session) (scope : ScopeId) (id : TaskId) (flow : Flow) (child : Child)
    (body : Interpreter.Body) (leaving : Interpreter.Leaving) (events : List Event) : Prop where
  wired : ran.Wired
  leads : Leads s ran id (s.around id flow) events
  within : ran.Within scope id { flow with broke := leaving.breaks } child body leaving.patch

/-- A child that has run is completed and folded. -/
theorem Ran.fold {ran : Session} {child : Child} {leaving : Interpreter.Leaving}
    {events : List Event} (hran : Ran s ran scope id flow child body leaving events)
    (hid : id.index < child.task.index) (hscopeOf : ran.scopeOf id = s.scopeOf id)
    (hinside : (s.around id flow).index < child.scope.index) :
    Leads s ((ran.complete child.task).foldChild id child) id (s.around id flow) events ∧
      ((ran.complete child.task).foldChild id child).Between scope id
        (flow.betweenTasks flow.cursor leaving.breaks) (body.fold leaving) := by
  obtain ⟨task, hwork⟩ := hran.within.working
  have hne : child.task ≠ id := (TaskId.ne_of_lt hid).symm
  have hwork' : (ran.complete child.task).Working scope id task
      { flow with broke := leaving.breaks } := by
    refine ⟨hwork.running, hwork.head, hwork.bound, ?_, hwork.incomplete, hwork.runs⟩
    rw [taskAt?_complete, if_neg hne, hwork.here]
  have hwithin : (ran.complete child.task).Within scope id { flow with broke := leaving.breaks }
      child body leaving.patch :=
    hran.within.changed ⟨task, hwork'⟩ rfl rfl (scopeOf_complete _ _ _) rfl hran.within.left
  have haround : (ran.complete child.task).around id { flow with broke := leaving.breaks } =
      s.around id flow :=
    around_congr rfl ((scopeOf_complete ran child.task id).trans hscopeOf)
  obtain ⟨hactive, -, -, -, hevents⟩ := foldChild_others (ran.complete child.task) id child
  refine ⟨⟨?_, ?_, ?_⟩, hwithin.fold (hran.wired.complete child.task)⟩
  · have hcompleted := hran.leads.below.complete (Nat.le_of_lt hid)
    exact hcompleted.foldChild hwork'.flowAt? (Nat.le_of_eq (by rw [haround]))
      (Nat.le_of_lt hinside)
  · rw [hactive]
    exact hran.leads.active
  · rw [hevents]
    exact hran.leads.events

/-- An update leaves its patch. -/
theorem AtChild.ran_update {child : Child} {inner : Task}
    (hat : s.AtChild scope id flow child inner) (hwired : s.Wired)
    (hwithin : s.Within scope id flow child body .empty) (hcalm : flow.broke = false)
    {patch : Value} (htree : Value.empty.merge patch = patch) :
    Ran s (s.modifyScope inner.scope (·.mergeResult patch)) scope id flow child body
      { patch, breaks := false } [] := by
  obtain ⟨hscope, -, -, -, -, hinside⟩ := hat.places hwired
  obtain ⟨task, hwork⟩ := hwithin.working
  have hgrows : Grows s (s.modifyScope inner.scope (·.mergeResult patch)) :=
    (Grows.refl s).modifyScope _ (Scope.keepsBinding_mergeResult patch)
  have hsame : { flow with broke := false } = flow := by rw [← hcalm]
  have hne : child.scope ≠ s.around id flow := (ScopeId.ne_of_lt hinside).symm
  obtain ⟨found, hfound⟩ := hwired.exists_scopeAt? hat.inner
  rw [scopeOf_eq_of_taskAt? hat.inner, hscope] at hfound
  have hleft := hwithin.left
  rw [scope_eq_of_scopeAt? hfound] at hleft
  have hwork' : (s.modifyScope inner.scope (·.mergeResult patch)).Working scope id task
      { flow with broke := false } := by
    rw [hsame]
    exact ⟨hwork.running, hwork.head, hgrows.scope_flow hwork.bound, hwork.here,
      hwork.incomplete, hwork.runs⟩
  refine ⟨hwired.modifyScope _ (Scope.keepsBinding_mergeResult patch),
    .of_eq ?_ rfl rfl, hwithin.changed ⟨task, hwork'⟩ rfl rfl rfl ?_ ?_⟩
  · rw [hscope]
    exact (SameBelow.refl s id _).modifyScope (Nat.le_of_lt hinside) _
  · rw [hscope, scopeAt?_modifyScope_of_ne _ _ hne]
  · have hmerged : (s.modifyScope inner.scope (·.mergeResult patch)).scopeAt? child.scope =
        some (found.mergeResult patch) := by
      rw [hscope, scopeAt?_modifyScope_self, hfound]
      rfl
    rw [scope_eq_of_scopeAt? hmerged, Scope.mergeResult, hleft]
    exact htree

/-- A break stops the flow around it, and leaves nothing. -/
theorem Within.ran_break {child : Child} (hwithin : s.Within scope id flow child body .empty)
    (hwired : s.Wired) :
    Ran s (s.modifyFlow id fun flow => { flow with broke := true }) scope id flow child body
      { patch := .empty, breaks := true } [] := by
  obtain ⟨task, hwork⟩ := hwithin.working
  have hgrows : Grows s (s.modifyFlow id fun flow => { flow with broke := true }) :=
    (Grows.refl s).modifyFlow id fun _ => rfl
  have hwork' := hwork.changed hgrows rfl rfl (fun flow => { flow with broke := true })
    (by rw [taskAt?_modifyFlow, if_pos rfl])
  refine ⟨?_, .of_eq ?_ rfl rfl,
    hwithin.changed ⟨_, hwork'⟩ rfl rfl (scopeOf_modifyFlow _ _ _ _) rfl hwithin.left⟩
  · exact hwired.modifyFlow id fun flow hflow => (hwired.linked hflow).of_same rfl (.inr rfl)
  · exact (SameBelow.refl s id _).modifyFlow (Nat.le_refl _) _

/-- What is announced is emitted, and leaves nothing. -/
theorem Within.ran_emit {child : Child} (hwithin : s.Within scope id flow child body .empty)
    (hwired : s.Wired) (hcalm : flow.broke = false) (event : Event) :
    Ran s (s.emit event) scope id flow child body { patch := .empty, breaks := false }
      [event] := by
  obtain ⟨task, hwork⟩ := hwithin.working
  have hsame : { flow with broke := false } = flow := by rw [← hcalm]
  have hwork' : (s.emit event).Working scope id task { flow with broke := false } := by
    rw [hsame]
    exact ⟨hwork.running, hwork.head, hwork.bound, hwork.here, hwork.incomplete, hwork.runs⟩
  refine ⟨hwired.of_same rfl rfl fun _ => rfl, ⟨.of_same rfl rfl, rfl, ?_⟩,
    hwithin.changed ⟨task, hwork'⟩ rfl rfl rfl rfl hwithin.left⟩
  rw [(emit_others s event).2.2.2.2.2.2.2.2, Array.toList_push]

section

variable {child : Child} {inner : Task} {decl : TaskDecl} {repository : Repository} {host : Host}
  {limit : Nat} {enter : Flow → Value → Interpreter.Result Interpreter.Ending}

/-- A child that runs is folded by the same turn. -/
theorem Ran.performs {ran : Session} {leaving : Interpreter.Leaving} {events : List Event}
    (hran : Ran s ran scope id flow child body leaving events)
    (hat : s.AtChild scope id flow child inner) (hprepared : s.Prepared repository host limit)
    (hinput : inner.requiresInput = false) (hleaf : inner.isFlow = false)
    (hopen : inner.complete = false) (heffect : s.effect inner = .ok ran) :
    s.Performs id (s.around id flow) 1 (.done leaving events) fun leaving s' =>
      s'.Between scope id (flow.betweenTasks flow.cursor leaving.breaks) (body.fold leaving) := by
  obtain ⟨-, -, -, hid, -, hinside⟩ := hat.places hprepared.sound.wired
  obtain ⟨task, hwork⟩ := hat.working
  have hturn := hat.turn_of_effect hprepared.unpaused hinput hleaf hopen heffect
  have hscopeOf := (effect_grows heffect).scopeOf hwork.here
  obtain ⟨hleads, hbetween⟩ := hran.fold hid hscopeOf hinside
  exact ⟨1, _, Nat.le_refl _, .single hturn, hleads, hbetween⟩

variable (enter) in
/-- A session with a child open that is no flow performs the run of its declaration. -/
theorem Within.performs_leaf (hwithin : s.Within scope id flow child body .empty)
    (hat : s.AtChild scope id flow child inner) (hprepared : s.Prepared repository host limit)
    (hcalm : flow.broke = false) (hopen : inner.complete = false)
    (hstate : s.stateOf inner = body.state) (hname : inner.name = decl.name)
    (hbuilt : repository.activity decl body.state = .ok inner.activity)
    (hleaf : inner.isFlow = false) (hunattended : decl.action.isUnattended = true) :
    s.Performs id (s.around id flow) 1
      (Interpreter.runTask enter repository decl body.state) fun leaving s' =>
        s'.Between scope id (flow.betweenTasks flow.cursor leaving.breaks) (body.fold leaving) := by
  have hwired := hprepared.sound.wired
  unfold Repository.activity at hbuilt
  unfold Interpreter.runTask
  cases haction : decl.action with
  | screen rows =>
      rw [haction] at hunattended
      cases hunattended
  | redirect url =>
      rw [haction] at hunattended
      cases hunattended
  | update instructions =>
      rw [haction] at hbuilt
      have hactivity := (Except.ok.inj hbuilt).symm
      have hinput : inner.requiresInput = false := by simp [Task.requiresInput, hactivity]
      cases hpatch : Instruction.chainedPatch instructions body.state with
      | error error =>
          have heffect : s.effect inner = .error error :=
            effect_eq_error_iff.mpr ⟨instructions, hactivity, by rw [hstate, hpatch]⟩
          dsimp only
          rw [hpatch, Interpreter.Result.ofExcept_error_andThen]
          exact performs_of_failed (hat.turn_of_effect_error hprepared.unpaused hopen heffect) rfl
      | ok patch =>
          have heffect : s.effect inner =
              .ok (s.modifyScope inner.scope (·.mergeResult patch)) := by
            unfold effect
            simp only [hactivity, hstate, hpatch]
            rfl
          have htree := Instruction.empty_merge_chainedPatch hpatch
          dsimp only
          rw [hpatch, Interpreter.Result.ofExcept_ok_andThen]
          exact (hat.ran_update hwired hwithin hcalm htree).performs hat hprepared hinput hleaf
            hopen heffect
  | remoteCall call =>
      rw [haction] at hbuilt hunattended
      obtain ⟨built, hcall, hsort⟩ := exists_of_map_eq_ok hbuilt
      have hactivity := hsort.symm
      have hwaits : built.awaitsResult = false := by
        obtain ⟨computed, -, hparts⟩ := exists_of_map_eq_ok hcall
        rw [← hparts]
        simpa [TaskAction.isUnattended, RemoteCall.awaitsResult] using hunattended
      have hinput : inner.requiresInput = false := by
        simp [Task.requiresInput, hactivity, hwaits]
      have heffect : s.effect inner =
          .ok (s.emit (.remoteCall built.endpoint built.payload)) := by
        unfold effect
        simp only [hactivity, hwaits, Bool.false_eq_true, ↓reduceIte]
      have hran := hwithin.ran_emit hwired hcalm (.remoteCall built.endpoint built.payload)
      dsimp only
      rw [hcall, Interpreter.Result.ofExcept_ok_andThen, hwaits, if_neg Bool.false_ne_true]
      exact hran.performs hat hprepared hinput hleaf hopen heffect
  | event action =>
      rw [haction] at hbuilt
      have hactivity := (Except.ok.inj hbuilt).symm
      have hinput : inner.requiresInput = false := by simp [Task.requiresInput, hactivity]
      obtain ⟨-, howner, -⟩ := hat.places hwired
      by_cases hbreak : action = "break"
      · have heffect : s.effect inner =
            .ok (s.modifyFlow id fun flow => { flow with broke := true }) := by
          unfold effect
          simp only [hactivity, hbreak, howner, ↓reduceIte]
        dsimp only
        rw [if_pos hbreak]
        exact (hwithin.ran_break hwired).performs hat hprepared hinput hleaf hopen heffect
      · have heffect : s.effect inner = .ok (s.emit (.marker inner.name action)) := by
          unfold effect
          simp only [hactivity, hbreak, ↓reduceIte]
        have hran := hwithin.ran_emit hwired hcalm (.marker inner.name action)
        dsimp only
        rw [if_neg hbreak, ← hname]
        exact hran.performs hat hprepared hinput hleaf hopen heffect
  | flow repetition inline =>
      rw [haction] at hbuilt
      exfalso
      revert hbuilt
      dsimp only
      cases Keyed.get? decl.name repository.flows with
      | none => intro hbuilt; cases hbuilt
      | some declared =>
          intro hbuilt
          obtain ⟨nested, -, hsort⟩ := exists_of_map_eq_ok hbuilt
          simp [Task.isFlow, Task.flow?, ← hsort] at hleaf

/-! ## Running a nested flow -/

variable {nested : Flow} {bound : Nat}

/-- Wherever the flow of a name has been entered, a session performs its run. -/
def Enters (repository : Repository) (host : Host) (limit bound : Nat)
    (enter : Flow → Value → Interpreter.Result Interpreter.Ending) (name : String) : Prop :=
  ∀ ⦃s : Session⦄ ⦃scope : ScopeId⦄ ⦃id : TaskId⦄ ⦃flow : Flow⦄ ⦃state : Value⦄,
    s.Prepared repository host limit → s.Entered scope id flow state → flow.definition = name →
      s.Performs id scope bound (enter flow state) fun ending s' => s'.Ended scope id ending

/-- Nothing in a flow waits, and a session performs the runs of the flows that its tasks run. -/
structure Runnable (repository : Repository) (host : Host) (limit bound : Nat)
    (enter : Flow → Value → Interpreter.Result Interpreter.Ending) (declared : FlowDecl) :
    Prop where
  unattended : ∀ decl ∈ declared.tasks, decl.action.isUnattended = true
  enters : ∀ decl ∈ declared.tasks, decl.action.isReference = true →
    Keyed.contains decl.name repository.flows = true →
      Enters repository host limit bound enter decl.name

/-- Without breakpoints, a child that is a flow is entered. -/
theorem AtChild.turn_of_flow (hat : s.AtChild scope id flow child inner)
    (hunpaused : s.settings.breakpoints = []) (hruns : inner.flow? = some nested)
    (hopen : inner.complete = false) :
    s.turn = (.ok .again, { s with active := s.active.push child.scope }) := by
  have hactivity := Task.flow?_eq_some_iff.mp hruns
  rw [hat.turn_eq, if_neg (by simp [hunpaused]), if_neg (by simp [Task.requiresInput, hactivity]),
    if_pos (by simp [Task.isFlow, hruns, hopen])]

theorem Within.entered (hwithin : s.Within scope id flow child body .empty)
    (hat : s.AtChild scope id flow child inner) (hsound : s.Sound)
    (hruns : inner.flow? = some nested) (hopen : inner.complete = false)
    (hstate : s.stateOf inner = body.state)
    (hfresh : nested = { definition := nested.definition, repetition := nested.repetition,
                         settings := nested.settings, items := nested.items }) :
    Entered { s with active := s.active.push child.scope } child.scope child.task nested
      body.state := by
  have hwired := hsound.wired
  obtain ⟨hscope, -⟩ := hat.places hwired
  obtain ⟨task, hwork⟩ := hat.working
  have hisFlow : inner.isFlow = true := by rw [Task.isFlow, hruns]; rfl
  have hbound := hwired.flow_scope hat.inner hisFlow
  rw [hscope] at hbound
  have hhead : (s.active.push child.scope).head? = some child.scope := by
    rw [Cursor.head?_eq (Cursor.valid_push _ _), Cursor.toList_push hsound.active]
    rfl
  have hpass : nested.pass = none := by rw [hfresh]
  have haround : Session.around { s with active := s.active.push child.scope } child.task nested =
      child.scope := by
    rw [around_eq, hpass, ← hscope]
    exact scopeOf_eq_of_taskAt? hat.inner
  refine ⟨⟨⟨inner, hwork.running, hhead, hbound, hat.inner, hopen, hruns⟩, ?_, ?_, ?_, ?_⟩, hfresh⟩
  · rw [hfresh]
  · rw [hfresh]
  · rw [haround, ← hstate, stateOf, hscope]
    rfl
  · rw [haround, hpass]
    exact hwithin.left

/-- A flow that is complete is left, if it is not the last one. -/
theorem Ended.turn_of_outer {ending : Interpreter.Ending} {next : ScopeId} {outer : List ScopeId}
    (hended : s.Ended scope id ending) (hsound : s.Sound)
    (hlist : s.active.toList = scope :: next :: outer) :
    s.turn = (.ok .again, { s with active := s.active.pop }) := by
  obtain ⟨task, htask, hcomplete⟩ := hended.complete
  have hopen : s.active.pop.isEmpty = false := by
    rw [Cursor.isEmpty_eq hsound.active.pop, Cursor.toList_pop hsound.active, hlist]
    rfl
  rw [Session.turn_of_complete hended.running hended.head hended.bound htask hcomplete, leave]
  simp only [hopen, Bool.false_eq_true, ↓reduceIte]

/-- The flow around a nested flow that has ended is as it was when the nested flow was entered, but
that its child is complete and has left the result of the nested flow. -/
theorem Within.resumed {ending : Interpreter.Ending} {outer : List ScopeId}
    (hwithin : s.Within scope id flow child body .empty)
    (hat : s.AtChild scope id flow child inner) (hwired : s.Wired)
    (hended : s'.Ended child.scope child.task ending)
    (hbelow : SameBelow s s' child.task child.scope) (hsound : s'.Sound)
    (hlist : s'.active.toList = child.scope :: scope :: outer) :
    ∃ done, done.complete = true ∧
      Session.AtChild { s' with active := s'.active.pop } scope id flow child done ∧
        Session.Within { s' with active := s'.active.pop } scope id flow child body
          ending.result := by
  obtain ⟨-, -, -, hid, hle, hinside⟩ := hat.places hwired
  obtain ⟨task, hwork⟩ := hat.working
  obtain ⟨done, hdone, hcomplete⟩ := hended.complete
  have htask := hbelow.tasks id hid
  have hwork' : Session.Working { s' with active := s'.active.pop } scope id task flow := by
    refine ⟨hended.running, ?_, ?_, htask.trans hwork.here, hwork.incomplete, hwork.runs⟩
    · rw [Cursor.head?_eq hsound.active.pop, Cursor.toList_pop hsound.active, hlist]
      rfl
    · have hsame := scope_congr
        (hbelow.scopes scope (Nat.lt_of_le_of_lt hle hinside))
      exact (congrArg Scope.flow hsame).trans hwork.bound
  have hscopeOf : s'.scopeOf id = s.scopeOf id := by
    rw [scopeOf_eq, htask]
    rfl
  exact ⟨done, hcomplete, ⟨⟨task, hwork'⟩, hat.current, hdone⟩,
    hwithin.changed ⟨task, hwork'⟩ rfl rfl hscopeOf (hbelow.scopes _ hinside) hended.result⟩

/-- A session with a nested flow open performs its run, and has its result folded. -/
theorem Within.performs_nested (hwithin : s.Within scope id flow child body .empty)
    (hat : s.AtChild scope id flow child inner) (hprepared : s.Prepared repository host limit)
    (hcalm : flow.broke = false) (hopen : inner.complete = false)
    (hstate : s.stateOf inner = body.state) (hruns : inner.flow? = some nested)
    (hfresh : nested = { definition := nested.definition, repetition := nested.repetition,
                         settings := nested.settings, items := nested.items })
    (henter : Enters repository host limit bound enter nested.definition) :
    s.Performs id (s.around id flow) (bound + 3)
      ((enter nested body.state).andThen fun ending =>
        .done { patch := ending.result, breaks := false } []) fun leaving s' =>
        s'.Between scope id (flow.betweenTasks flow.cursor leaving.breaks) (body.fold leaving) := by
  have hsound := hprepared.sound
  have hwired := hsound.wired
  obtain ⟨-, -, -, hid, -, hinside⟩ := hat.places hwired
  obtain ⟨task, hwork⟩ := hat.working
  have hentered := hat.turn_of_flow hprepared.unpaused hruns hopen
  have hplace := hwithin.entered hat hsound hruns hopen hstate hfresh
  have hperforms := henter (Turns.single hentered |>.prepared hprepared) hplace rfl
  cases hrun : enter nested body.state with
  | stuck =>
      rw [hrun] at hperforms
      exact hperforms.elim
  | failed error events =>
      rw [hrun] at hperforms
      obtain ⟨count, r, s', hcount, hturns, hlast, hevents⟩ := hperforms
      exact ⟨1 + count, r, s', by omega, (Turns.single hentered).trans hturns, hlast, hevents⟩
  | done ending events =>
      rw [hrun] at hperforms
      obtain ⟨count, r, hcount, hturns, hleads, hended⟩ := hperforms
      have hturns' := (Turns.single hentered).trans hturns
      have hprepared' := hturns'.prepared hprepared
      obtain ⟨found, outer, hlist, -⟩ := hsound.head hwork.head
      have hlist' : r.active.toList = child.scope :: scope :: outer := by
        rw [hleads.active, ← hlist]
        exact Cursor.toList_push hsound.active _
      have hleft := hended.turn_of_outer hprepared'.sound hlist'
      have hback := hturns'.trans (Turns.single hleft)
      have hprepared'' := hback.prepared hprepared
      have hbefore : SameBelow s { s with active := s.active.push child.scope } child.task
          child.scope := .of_same rfl rfl
      have hbelow := hbefore.trans hleads.below
      obtain ⟨done, hcomplete, hat', hwithin'⟩ :=
        hwithin.resumed hat hwired hended hbelow hprepared'.sound hlist'
      have hfolded := hat'.turn_of_complete hprepared''.unpaused hcomplete
      have hbetween := hwithin'.fold hprepared''.sound.wired
      rw [hcalm] at hbetween
      obtain ⟨hactive, -, -, -, hevents⟩ :=
        foldChild_others { r with active := r.active.pop } id child
      refine ⟨1 + count + 1 + 1, _, by omega, hback.trans (Turns.single hfolded), ⟨?_, ?_, ?_⟩, ?_⟩
      · have hsame : SameBelow s { r with active := r.active.pop } id (s.around id flow) :=
          (hbelow.mono (Nat.le_of_lt hid) (Nat.le_of_lt hinside)).trans (.of_same rfl rfl)
        have haround : Session.around { r with active := r.active.pop } id flow =
            s.around id flow :=
          around_congr rfl ((Moves.grows hback.moves).scopeOf hwork.here)
        obtain ⟨task', hwork'⟩ := hat'.working
        exact hsame.foldChild hwork'.flowAt? (Nat.le_of_eq (by rw [haround]))
          (Nat.le_of_lt hinside)
      · rw [hactive, Cursor.toList_pop hprepared'.sound.active, hlist', hlist]
        rfl
      · rw [hevents, List.append_nil]
        exact hleads.events
      · exact hbetween

/-! ## Running a task and those behind it -/

/-- A task that cannot be built fails when it is run. -/
theorem runTask_of_activity_error {state : Value} {error : Error}
    (hunattended : decl.action.isUnattended = true)
    (hactivity : repository.activity decl state = .error error) :
    Interpreter.runTask enter repository decl state = .failed error [] := by
  unfold Repository.activity at hactivity
  unfold Interpreter.runTask
  cases haction : decl.action with
  | screen | redirect =>
      rw [haction] at hunattended
      cases hunattended
  | update | event =>
      rw [haction] at hactivity
      cases hactivity
  | remoteCall call =>
      rw [haction] at hactivity
      dsimp only at hactivity ⊢
      cases hcall : RemoteCall.ofDecl call state with
      | ok built =>
          rw [hcall] at hactivity
          cases hactivity
      | error found =>
          rw [hcall] at hactivity
          cases hactivity
          rfl
  | flow repetition inline =>
      rw [haction] at hactivity
      dsimp only at hactivity ⊢
      cases hdeclared : Keyed.get? decl.name repository.flows with
      | none =>
          rw [hdeclared] at hactivity
          cases hactivity
          rfl
      | some declared =>
          rw [hdeclared] at hactivity
          dsimp only at hactivity ⊢
          generalize Flow.start decl.name repetition _ state = started at hactivity ⊢
          cases started with
          | ok nested => cases hactivity
          | error found =>
              cases hactivity
              rfl

variable (enter) in
/-- A task that is built as a flow runs it. -/
theorem runTask_of_activity_flow {state : Value}
    (hactivity : repository.activity decl state = .ok (.flow nested)) :
    decl.action.isReference = true ∧
      Keyed.contains decl.name repository.flows = true ∧
        Interpreter.runTask enter repository decl state =
          (enter nested state).andThen fun ending =>
            .done { patch := ending.result, breaks := false } [] := by
  unfold Repository.activity at hactivity
  unfold Interpreter.runTask
  cases haction : decl.action with
  | screen | remoteCall =>
      rw [haction] at hactivity
      obtain ⟨built, -, hsort⟩ := exists_of_map_eq_ok hactivity
      cases hsort
  | update | event | redirect =>
      rw [haction] at hactivity
      cases hactivity
  | flow repetition inline =>
      rw [haction] at hactivity
      refine ⟨rfl, ?_⟩
      dsimp only at hactivity ⊢
      rw [Keyed.contains]
      cases hdeclared : Keyed.get? decl.name repository.flows with
      | none =>
          rw [hdeclared] at hactivity
          cases hactivity
      | some declared =>
          rw [hdeclared] at hactivity
          refine ⟨rfl, ?_⟩
          obtain ⟨built, hstart, hsort⟩ := exists_of_map_eq_ok hactivity
          cases hsort
          exact (congrArg (fun started => (Interpreter.Result.ofExcept started).andThen _)
            hstart).trans (Interpreter.Result.ofExcept_ok_andThen _ _)

/-- A session at a declared task that is shown performs its run. -/
theorem Between.performs_task (hbetween : s.Between scope id flow body)
    (hat : s.AtStep scope id flow (.openTask decl)) (hprepared : s.Prepared repository host limit)
    (hcalm : body.broke = false) (hshows : s.shows id flow decl = .ok true)
    {declared : FlowDecl} (hrunnable : Runnable repository host limit bound enter declared)
    (hmem : decl ∈ declared.tasks) :
    s.Performs id (s.around id flow) (bound + 4)
      (Interpreter.runTask enter repository decl body.state) fun leaving s' =>
        s'.Between scope id (flow.betweenTasks (flow.cursor + 1) leaving.breaks)
          (body.fold leaving) := by
  have hwired := hprepared.sound.wired
  have hbuilds : s.repository.activity decl (s.ambient id flow) =
      repository.activity decl body.state := by
    rw [hbetween.ambient, hprepared.repository]
  cases hactivity : repository.activity decl body.state with
  | error error =>
      rw [runTask_of_activity_error (hrunnable.unattended decl hmem) hactivity]
      exact performs_of_failed (hat.turn_of_unopened (.inr ⟨hshows, hbuilds.trans hactivity⟩)) rfl
  | ok activity =>
      have hturn := hat.turn_of_opened hshows (hbuilds.trans hactivity)
      have hgrows := (turned hturn).grows
      have hopened := (Turns.single hturn).prepared hprepared
      obtain ⟨hleads, hwithin⟩ := hbetween.openChild hat hwired hgrows
      have hat' := hat.atChild_openChild hgrows
      have hcalm' : flow.broke = false := hbetween.broke.trans hcalm
      have hstate := (stateOf_openChild s id flow decl activity).trans hbetween.ambient
      have haround := hat.around_openChild hgrows
      cases hisFlow : (s.declaredTask id decl activity).flow? with
      | none =>
          have hleaf : (s.declaredTask id decl activity).isFlow = false := by
            rw [Task.isFlow, hisFlow]
            rfl
          have hrun := hwithin.performs_leaf enter hat' hopened hcalm' rfl hstate rfl hactivity
            hleaf (hrunnable.unattended decl hmem)
          rw [haround] at hrun
          exact (hrun.of_turn hturn hleads).of_le (by omega)
      | some nested =>
          have hsort : activity = .flow nested := Task.flow?_eq_some_iff.mp hisFlow
          rw [hsort] at hactivity
          obtain ⟨repetition, settings, hstart⟩ := start_of_activity hactivity
          have hfresh := Flow.start_eq hstart
          obtain ⟨hreference, hdeclared, hrunTask⟩ :=
            runTask_of_activity_flow enter hactivity
          have hname : nested.definition = decl.name := by rw [hfresh]
          have hrun := hwithin.performs_nested hat' hopened hcalm' rfl hstate hisFlow
            (by rw [hfresh]) (hname ▸ hrunnable.enters decl hmem hreference hdeclared)
          rw [haround, ← hrunTask] at hrun
          exact hrun.of_turn hturn hleads

/-- A session between two tasks performs the run of those that are left. -/
theorem Between.performs_tasks {declared : FlowDecl} {tasks : List TaskDecl}
    (hbetween : s.Between scope id flow body) (hprepared : s.Prepared repository host limit)
    (hdeclared : Keyed.get? flow.definition repository.flows = some declared)
    (hcalm : body.broke = false) (hinside : flow.isLoop = true → flow.pass.isSome = true)
    (hrest : declared.tasks.drop flow.cursor = tasks)
    (hrunnable : Runnable repository host limit bound enter declared) :
    s.Performs id (s.around id flow) (tasks.length * (bound + 4))
      (Interpreter.runTasks enter repository host tasks body) fun body' s' => ∃ cursor,
        s'.Between scope id (flow.betweenTasks cursor body'.broke) body' ∧
          (flow.betweenTasks cursor body'.broke).nextStep declared.tasks = flow.endStep := by
  have hcalm' : flow.broke = false := hbetween.broke.trans hcalm
  induction tasks generalizing s flow body with
  | nil =>
      have hnone : declared.tasks[flow.cursor]? = none :=
        List.getElem?_eq_none_iff.mpr (List.drop_eq_nil_iff.mp hrest)
      have hsame : flow.betweenTasks flow.cursor body.broke = flow := by
        rw [← hbetween.broke, Flow.betweenTasks, ← hbetween.current]
      refine ⟨0, s, Nat.zero_le _, .refl s, .refl s id _, flow.cursor, ?_⟩
      rw [hsame]
      exact ⟨hbetween, Flow.nextStep_eq_endStep hinside (.inr hnone)⟩
  | cons decl rest ih =>
      have hwired := hprepared.sound.wired
      have hdecl : declared.tasks[flow.cursor]? = some decl := by
        rw [← List.head?_drop, hrest]
        rfl
      have hmem := List.mem_of_getElem? hdecl
      have hrest' : declared.tasks.drop (flow.cursor + 1) = rest := by
        rw [← List.tail_drop, hrest]
        rfl
      have hat : s.AtStep scope id flow (.openTask decl) := by
        rw [← Flow.nextStep_eq_openTask_iff.mpr ⟨hcalm', hinside, hdecl⟩]
        exact hbetween.atStep (hprepared.repository ▸ hdeclared)
      have hshows := hbetween.shows decl
      rw [hprepared.repository, hprepared.host] at hshows
      obtain ⟨task, hwork⟩ := hbetween.working
      have hlength : (decl :: rest).length * (bound + 4) =
          bound + 4 + rest.length * (bound + 4) := by
        rw [List.length_cons, Nat.add_mul, Nat.one_mul, Nat.add_comm]
      rw [Interpreter.runTasks, hlength]
      cases hresult : (repository.judge host body.state).allPass .null decl.preconditions with
      | error error =>
          exact performs_of_failed (hat.turn_of_unopened (.inl (hshows.trans hresult))) rfl
      | ok shown =>
          cases shown with
          | false =>
              have hturn := hat.turn_of_skipped (hshows.trans hresult)
              have hturns := Turns.single hturn
              obtain ⟨hleads, hbetween'⟩ := hbetween.passOver hat hwired (hshows.trans hresult)
              have hlater := ih hbetween' (hturns.prepared hprepared) hdeclared hcalm hinside
                hrest' hcalm'
              rw [around_congr rfl ((Moves.grows hturns.moves).scopeOf hwork.here)] at hlater
              exact (hlater.of_turn hturn hleads).of_le (by omega)
          | true =>
              have htask := hbetween.performs_task hat hprepared hcalm (hshows.trans hresult)
                hrunnable hmem
              refine htask.andThen fun count events leaving s' hturns _ hbetween' => ?_
              cases hbreaks : leaving.breaks with
              | true =>
                  rw [hbreaks] at hbetween'
                  refine ⟨0, s', Nat.zero_le _, .refl s', .refl s' id _, flow.cursor + 1, ?_⟩
                  have hbroke : (body.fold leaving).broke = true := hbreaks
                  rw [hbroke]
                  exact ⟨hbetween', Flow.nextStep_eq_endStep hinside (.inl rfl)⟩
              | false =>
                  rw [hbreaks] at hbetween'
                  have hlater := ih hbetween' (hturns.prepared hprepared) hdeclared hbreaks hinside
                    hrest' rfl
                  have haround : s'.around id (flow.betweenTasks (flow.cursor + 1) false) =
                      s.around id flow :=
                    around_congr rfl ((Moves.grows hturns.moves).scopeOf hwork.here)
                  rw [haround] at hlater
                  exact hlater

end

end Session

end Workflow
