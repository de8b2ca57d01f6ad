import Mathlib.Logic.Basic
import Workflow.Proofs.Session.Runs

/-!
# What a turn can do

`Session.Turned s result s'` lists everything that one turn can come to, each case with the facts
that lead to it and with the session it leaves.  `turned` proves the list complete, and nothing
after it unfolds a turn again.

A turn fails in two ways.  Most failures leave the session as it was, so that the same turn can be
taken again; the others leave what the failing step had done: a child that failed is dropped, a
loop that has no more passes is marked before it publishes, and a declared task that cannot be
opened is passed over.
-/

namespace Workflow

/-- The task that a declaration gives in a state. -/
def Repository.activity (repository : Repository) (decl : TaskDecl) (state : Value) :
    Except Error Activity :=
  match decl.action with
  | .screen rows => (Screen.ofRows repository decl.name rows).map .screen
  | .remoteCall call => (RemoteCall.ofDecl call state).map .remoteCall
  | .flow repetition inline =>
    match Keyed.get? decl.name repository.flows with
    | some declared =>
      let settings := match inline with
        | some inline => declared.settings.overriddenBy inline
        | none => declared.settings
      (Flow.start decl.name repetition settings state).map .flow
    | none => .error (.noFlow decl.name)
  | .update instructions => .ok (.update instructions)
  | .redirect url => .ok (.redirect url)
  | .event action => .ok (.event action)

theorem Flow.nextStep_eq_openTask_iff {flow : Flow} {tasks : List TaskDecl} {decl : TaskDecl} :
    flow.nextStep tasks = .openTask decl ↔
      flow.broke = false ∧ (flow.isLoop → flow.pass.isSome) ∧
        tasks[flow.cursor]? = some decl := by
  unfold nextStep
  cases hloop : flow.isLoop <;> cases hpass : flow.pass <;> cases hbroke : flow.broke <;>
    cases hdecl : tasks[flow.cursor]? <;> simp

/-- The flow with its child marked as handed out for its breakpoint. -/
def Flow.interrupted (flow : Flow) : Flow :=
  { flow with current := flow.current.map fun child => { child with interrupted := true } }

/-- The flow marked to make no more passes, where it is one that had not been marked. -/
def Flow.concluded (mark : Bool) (flow : Flow) : Flow :=
  if mark then { flow with finished := true } else flow

namespace Session

theorem markInterrupted_eq (s : Session) (id : TaskId) :
    s.markInterrupted id = s.modifyFlow id Flow.interrupted := rfl

/-- The flow `id`, at work in the innermost scope: nothing was redirected, and the flow is not
complete. -/
structure Working (s : Session) (scope : ScopeId) (id : TaskId) (task : Task) (flow : Flow) :
    Prop where
  running : s.redirectedTo = none
  head : s.active.head? = some scope
  bound : (s.scope scope).flow = some id
  here : s.taskAt? id = some task
  incomplete : task.complete = false
  runs : task.flow? = some flow

/-- The scope in which a flow opens its tasks: that of its pass, or its own without one. -/
def around (s : Session) (id : TaskId) (flow : Flow) : ScopeId :=
  flow.pass.getD (s.scopeOf id)

/-- The state in which a flow opens its tasks. -/
def ambient (s : Session) (id : TaskId) (flow : Flow) : Value :=
  (s.scope (s.around id flow)).state

/-- A scope is opened for the task at the cursor, and the cursor moves on. -/
def attempt (s : Session) (id : TaskId) (flow : Flow) : Session :=
  (s.modifyFlow id fun flow => { flow with cursor := flow.cursor + 1 }).openScope
    (s.ambient id flow) (some (s.around id flow))

/-- The task at the cursor is passed over: its scope is closed again. -/
def passOver (s : Session) (id : TaskId) (flow : Flow) : Session :=
  (s.attempt id flow).closeScope s.nextScope

def nextChild (s : Session) (flow : Flow) : Child where
  task := s.nextTask
  scope := s.nextScope
  place := flow.cursor
  interrupted := false

/-- The task at the cursor is opened as the child of its flow. -/
def openChild (s : Session) (id : TaskId) (flow : Flow) (decl : TaskDecl) (activity : Activity) :
    Session :=
  ((s.attempt id flow).openTask
    { name := decl.name, scope := s.nextScope, owner := some id, complete := false,
      activity }).modifyFlow id fun current => { current with current := some (s.nextChild flow) }

/-- A child that failed is dropped, and the cursor goes back to it. -/
def dropChild (s : Session) (id : TaskId) (child : Child) : Session :=
  (s.closeScope child.scope).modifyFlow id fun flow =>
    { flow with current := none, cursor := child.place }

/-- A pass is folded into its loop. -/
def endPass (s : Session) (id : TaskId) (pass : ScopeId) (snapshot : Value) : Session :=
  ((s.modifyScope (s.scopeOf id) (·.mergeState (s.scope pass).result)).closeScope pass).modifyFlow
    id (·.foldPass snapshot)

/-- A loop is marked to make no more passes, where it is one that had not been marked. -/
def concluded (s : Session) (id : TaskId) (mark : Bool) : Session :=
  if mark then s.modifyFlow id fun flow => { flow with finished := true } else s

/-- A flow has its publication in the result of its scope, and is complete. -/
def published (s : Session) (id : TaskId) (mark : Bool) (result : Value) : Session :=
  ((s.concluded id mark).modifyScope (s.scopeOf id) (·.mergeResult result)).complete id

/-- A turn that works on the child of a flow. -/
structure AtChild (s : Session) (scope : ScopeId) (id : TaskId) (flow : Flow) (child : Child)
    (inner : Task) : Prop where
  working : ∃ task, s.Working scope id task flow
  current : flow.current = some child
  inner : s.taskAt? child.task = some inner

/-- A turn that moves a flow on to its next step. -/
structure AtStep (s : Session) (scope : ScopeId) (id : TaskId) (flow : Flow) (step : FlowStep) :
    Prop where
  working : ∃ task, s.Working scope id task flow
  current : flow.current = none
  next : ∃ declared, Keyed.get? flow.definition s.repository.flows = some declared ∧
    flow.nextStep declared.tasks = step

/-- Whether the task of a declaration is to be opened by a flow, or why that cannot be told. -/
def shows (s : Session) (id : TaskId) (flow : Flow) (decl : TaskDecl) : Except Error Bool :=
  (s.judge (s.ambient id flow)).allPass .null decl.preconditions

/-- What one turn can come to. -/
inductive Turned (s : Session) : Except Error Turn → Session → Prop
  | idle (hidle : s.redirectedTo.isSome ∨ s.active.head? = none) : Turned s (.ok .ended) s
  | unbound {scope : ScopeId} (hhead : s.active.head? = some scope)
      (hflow : (s.scope scope).flow = none) :
      Turned s (.ok .again) { s with active := s.active.pop }
  | stuck {error : Error} (hturn : s.turn = (.error error, s)) : Turned s (.error error) s
  | left {scope : ScopeId} {id : TaskId} {task : Task} {result : Except Error Turn} {s' : Session}
      (hrunning : s.redirectedTo = none) (hhead : s.active.head? = some scope)
      (hbound : (s.scope scope).flow = some id) (htask : s.taskAt? id = some task)
      (hcomplete : task.complete = true) (hleave : s.leave scope = (result, s')) :
      Turned s result s'
  | interrupted {scope : ScopeId} {id : TaskId} {flow : Flow} {child : Child} {inner : Task}
      (hat : s.AtChild scope id flow child inner)
      (hbreak : s.settings.breakpoints.contains inner.name = true) :
      Turned s (.ok (.handOut child.task)) (s.markInterrupted id)
  | waiting {scope : ScopeId} {id : TaskId} {flow : Flow} {child : Child} {inner : Task}
      (hat : s.AtChild scope id flow child inner) (hinput : inner.requiresInput = true) :
      Turned s (.ok (.handOut child.task)) s
  | entered {scope : ScopeId} {id : TaskId} {flow : Flow} {child : Child} {inner : Task}
      (hat : s.AtChild scope id flow child inner) (hflow : inner.isFlow = true)
      (hopen : inner.complete = false) :
      Turned s (.ok .again) { s with active := s.active.push child.scope }
  | settled {scope : ScopeId} {id : TaskId} {flow : Flow} {child : Child} {inner : Task}
      {ran : Session} (hat : s.AtChild scope id flow child inner)
      (hinput : inner.requiresInput = false) (hleaf : inner.isFlow = true → inner.complete = true)
      (hrun : s.runChild id child inner = (.ok (), ran)) :
      Turned s (.ok .again) (ran.foldChild id child)
  | dropped {scope : ScopeId} {id : TaskId} {flow : Flow} {child : Child} {inner : Task}
      {error : Error} (hat : s.AtChild scope id flow child inner)
      (hopen : inner.complete = false) (heffect : s.effect inner = .error error) :
      Turned s (.error error) (s.dropChild id child)
  | skipped {scope : ScopeId} {id : TaskId} {flow : Flow} {decl : TaskDecl}
      (hat : s.AtStep scope id flow (.openTask decl)) (hshows : s.shows id flow decl = .ok false) :
      Turned s (.ok .again) (s.passOver id flow)
  | unopened {scope : ScopeId} {id : TaskId} {flow : Flow} {decl : TaskDecl} {error : Error}
      (hat : s.AtStep scope id flow (.openTask decl))
      (hfails : s.shows id flow decl = .error error ∨ s.shows id flow decl = .ok true ∧
        s.repository.activity decl (s.ambient id flow) = .error error) :
      Turned s (.error error) (s.passOver id flow)
  | opened {scope : ScopeId} {id : TaskId} {flow : Flow} {decl : TaskDecl} {activity : Activity}
      (hat : s.AtStep scope id flow (.openTask decl)) (hshows : s.shows id flow decl = .ok true)
      (hactivity : s.repository.activity decl (s.ambient id flow) = .ok activity) :
      Turned s (.ok .again) (s.openChild id flow decl activity)
  | passOpened {scope : ScopeId} {id : TaskId} {flow : Flow}
      (hat : s.AtStep scope id flow .nextPass) (hfinished : flow.finished = false)
      (hdue : s.isPassDue id flow = .ok true) (hlimit : flow.passes < s.settings.maxLoopPasses) :
      Turned s (.ok .again) (s.openPass id flow)
  | passEnded {scope : ScopeId} {id : TaskId} {flow : Flow} {pass : ScopeId} {snapshot : Value}
      (hat : s.AtStep scope id flow .foldPass) (hpass : flow.pass = some pass)
      (hsnapshot : flow.snapshotOf (s.scope pass).state (s.scope pass).result = .ok snapshot) :
      Turned s (.ok .again) (s.endPass id pass snapshot)
  | published {scope : ScopeId} {id : TaskId} {flow : Flow} {step : FlowStep} {mark : Bool}
      {result : Value} (hat : s.AtStep scope id flow step)
      (hstep : step = .publish ∨ step = .nextPass)
      (hresult : flow.publication (s.scope (s.scopeOf id)).state = .ok result) :
      Turned s (.ok .again) (s.published id mark result)
  | unpublished {scope : ScopeId} {id : TaskId} {flow : Flow} {error : Error}
      (hat : s.AtStep scope id flow .nextPass)
      (hresult : flow.publication (s.scope (s.scopeOf id)).state = .error error) :
      Turned s (.error error) (s.concluded id true)

/-! ## The steps of a turn -/

theorem buildActivity_eq (s : Session) (decl : TaskDecl) (scope : ScopeId) :
    s.buildActivity decl scope = s.repository.activity decl (s.scope scope).state := rfl

theorem scope_attempt (s : Session) (id : TaskId) (flow : Flow) :
    ((s.attempt id flow).scope s.nextScope).state = s.ambient id flow := by
  have hscope : (s.attempt id flow).scopeAt? s.nextScope =
      some (.opened (s.ambient id flow) (some (s.around id flow))) := by
    simp [attempt, scopeAt?_openScope, nextScope]
  rw [scope_eq_of_scopeAt? hscope]
  rfl

/-- Opening the task at the cursor, by what its preconditions and its building come to. -/
theorem openDeclared_eq (s : Session) (id : TaskId) (flow : Flow) (decl : TaskDecl) :
    s.openDeclared id flow decl =
      match s.shows id flow decl with
      | .error error => (.error error, s.passOver id flow)
      | .ok false => (.ok .again, s.passOver id flow)
      | .ok true =>
        match s.repository.activity decl (s.ambient id flow) with
        | .error error => (.error error, s.passOver id flow)
        | .ok activity => (.ok .again, s.openChild id flow decl activity) := by
  have hbuild : (s.attempt id flow).buildActivity decl s.nextScope =
      s.repository.activity decl (s.ambient id flow) := by
    rw [buildActivity_eq, scope_attempt]
    rfl
  have hlast : (s.attempt id flow).nextTask = s.nextTask := by
    simp [attempt, nextTask]
  change (match s.shows id flow decl with
    | .error error => (Except.error error, (s.attempt id flow).closeScope s.nextScope)
    | .ok false => (.ok Turn.again, (s.attempt id flow).closeScope s.nextScope)
    | .ok true =>
      match (s.attempt id flow).buildActivity decl s.nextScope with
      | .error error => (.error error, (s.attempt id flow).closeScope s.nextScope)
      | .ok activity =>
        (.ok .again, ((s.attempt id flow).openTask
          { name := decl.name, scope := s.nextScope, owner := some id, complete := false,
            activity }).modifyFlow id fun current =>
          { current with
            current := some { task := (s.attempt id flow).nextTask, scope := s.nextScope,
                              place := flow.cursor, interrupted := false } })) = _
  rw [hbuild, hlast]
  rfl

theorem turn_of_not_running {s : Session}
    (hidle : s.redirectedTo.isSome ∨ s.active.head? = none) : s.turn = (.ok .ended, s) := by
  unfold turn
  split
  · rfl
  · next hrunning =>
      rw [hidle.resolve_left hrunning]

theorem turn_of_bound {s : Session} {scope : ScopeId} {id : TaskId}
    (hrunning : s.redirectedTo = none) (hhead : s.active.head? = some scope)
    (hbound : (s.scope scope).flow = some id) : s.turn = s.resume scope id := by
  simp [turn, hrunning, hhead, hbound]

theorem turn_of_complete {s : Session} {scope : ScopeId} {id : TaskId} {task : Task}
    (hrunning : s.redirectedTo = none) (hhead : s.active.head? = some scope)
    (hbound : (s.scope scope).flow = some id) (htask : s.taskAt? id = some task)
    (hcomplete : task.complete = true) : s.turn = s.leave scope := by
  rw [turn_of_bound hrunning hhead hbound, resume, task_eq_ok_iff.mpr htask]
  simp [hcomplete]

theorem Working.flowAt? {s : Session} {scope : ScopeId} {id : TaskId} {task : Task} {flow : Flow}
    (hwork : s.Working scope id task flow) : s.flowAt? id = some flow :=
  flowAt?_eq_some_iff.mpr ⟨task, hwork.here, hwork.runs⟩

theorem Working.turn_eq {s : Session} {scope : ScopeId} {id : TaskId} {task : Task} {flow : Flow}
    (hwork : s.Working scope id task flow) :
    s.turn =
      match flow.current with
      | some child => s.attend id child
      | none => s.proceed id flow := by
  have hturn := turn_of_bound hwork.running hwork.head hwork.bound
  rw [resume, task_eq_ok_iff.mpr hwork.here] at hturn
  cases hcurrent : flow.current with
  | none =>
      simp only [hturn, hwork.incomplete, flow_eq_ok_iff.mpr hwork.flowAt?, hcurrent,
        Bool.false_eq_true, ↓reduceIte]
  | some child =>
      simp only [hturn, hwork.incomplete, flow_eq_ok_iff.mpr hwork.flowAt?, hcurrent,
        Bool.false_eq_true, ↓reduceIte]

theorem AtChild.turn_eq {s : Session} {scope : ScopeId} {id : TaskId} {flow : Flow}
    {child : Child} {inner : Task} (hat : s.AtChild scope id flow child inner) :
    s.turn =
      if !child.interrupted && s.settings.breakpoints.contains inner.name then
        (.ok (.handOut child.task), s.markInterrupted id)
      else if inner.requiresInput then (.ok (.handOut child.task), s)
      else if inner.isFlow && !inner.complete then
        (.ok .again, { s with active := s.active.push child.scope })
      else s.settleChild id child inner := by
  obtain ⟨task, hwork⟩ := hat.working
  rw [hwork.turn_eq, hat.current]
  simp only [attend, task_eq_ok_iff.mpr hat.inner]

/-- A step of a flow that has no child open. -/
def takeStep (s : Session) (id : TaskId) (flow : Flow) : FlowStep → Outcome Turn
  | .openTask decl => s.openDeclared id flow decl
  | .nextPass => s.nextPass id flow
  | .foldPass => s.foldPass id flow
  | .publish => s.publish id

theorem AtStep.turn_eq {s : Session} {scope : ScopeId} {id : TaskId} {flow : Flow}
    {step : FlowStep} (hat : s.AtStep scope id flow step) : s.turn = s.takeStep id flow step := by
  obtain ⟨task, hwork⟩ := hat.working
  obtain ⟨declared, hdeclared, hnext⟩ := hat.next
  rw [hwork.turn_eq, hat.current]
  simp only [proceed, hdeclared, hnext]
  cases step <;> rfl

theorem AtStep.turn_of_skipped {s : Session} {scope : ScopeId} {id : TaskId} {flow : Flow}
    {decl : TaskDecl} (hat : s.AtStep scope id flow (.openTask decl))
    (hshows : s.shows id flow decl = .ok false) : s.turn = (.ok .again, s.passOver id flow) := by
  rw [hat.turn_eq, takeStep, openDeclared_eq, hshows]

theorem AtStep.turn_of_unopened {s : Session} {scope : ScopeId} {id : TaskId} {flow : Flow}
    {decl : TaskDecl} {error : Error} (hat : s.AtStep scope id flow (.openTask decl))
    (hfails : s.shows id flow decl = .error error ∨ s.shows id flow decl = .ok true ∧
      s.repository.activity decl (s.ambient id flow) = .error error) :
    s.turn = (.error error, s.passOver id flow) := by
  rw [hat.turn_eq, takeStep, openDeclared_eq]
  rcases hfails with hshows | ⟨hshows, hactivity⟩
  · rw [hshows]
  · simp only [hshows, hactivity]

theorem AtStep.turn_of_opened {s : Session} {scope : ScopeId} {id : TaskId} {flow : Flow}
    {decl : TaskDecl} {activity : Activity} (hat : s.AtStep scope id flow (.openTask decl))
    (hshows : s.shows id flow decl = .ok true)
    (hactivity : s.repository.activity decl (s.ambient id flow) = .ok activity) :
    s.turn = (.ok .again, s.openChild id flow decl activity) := by
  rw [hat.turn_eq, takeStep, openDeclared_eq, hshows]
  simp only [hactivity]

/-- Publishing, by what the flow has to publish. A mark on the flow makes no difference to it. -/
theorem publish_concluded {s : Session} {id : TaskId} {flow : Flow}
    (hflow : s.flowAt? id = some flow) (mark : Bool) :
    (s.concluded id mark).publish id =
      match flow.publication (s.scope (s.scopeOf id)).state with
      | .error error => (.error error, s.concluded id mark)
      | .ok result => (.ok .again, s.published id mark result) := by
  obtain ⟨task, htask, hflow'⟩ := flowAt?_eq_some_iff.mp hflow
  cases mark with
  | false =>
      simp only [concluded, Bool.false_eq_true, ↓reduceIte, publish, flow_eq_ok_iff.mpr hflow]
      rfl
  | true =>
      have hmarked : (s.concluded id true).flowAt? id = some { flow with finished := true } := by
        simp [concluded, hflow]
      have hscope : (s.concluded id true).scopeOf id = s.scopeOf id := by
        have hafter : (s.concluded id true).taskAt? id =
            some (task.mapFlow fun flow => { flow with finished := true }) := by
          simp [concluded, taskAt?_modifyFlow, htask]
        rw [scopeOf_eq_of_taskAt? hafter, scopeOf_eq_of_taskAt? htask]
        simp
      simp only [publish, flow_eq_ok_iff.mpr hmarked, hscope]
      rfl

theorem AtChild.turned {s s' : Session} {scope : ScopeId} {id : TaskId} {flow : Flow}
    {child : Child} {inner : Task} {result : Except Error Turn}
    (hat : s.AtChild scope id flow child inner) (hturn : s.turn = (result, s')) :
    s.Turned result s' := by
  rw [hat.turn_eq] at hturn
  split_ifs at hturn with hbreak hinput hflow
  · cases hturn
    exact .interrupted hat (Bool.and_eq_true_iff.mp hbreak).2
  · cases hturn
    exact .waiting hat hinput
  · cases hturn
    obtain ⟨hisFlow, hopen⟩ := Bool.and_eq_true_iff.mp hflow
    exact .entered hat hisFlow (by simpa using hopen)
  · rw [settleChild] at hturn
    cases hrun : s.runChild id child inner with
    | mk outcome ran =>
        rw [hrun] at hturn
        cases outcome with
        | ok _ =>
            cases hturn
            exact .settled hat (by simpa using hinput) (by simpa using hflow) hrun
        | error error =>
            cases hturn
            unfold runChild at hrun
            split_ifs at hrun with hcomplete
            · cases hrun
            · split at hrun
              · cases hrun
              · next failure heffect =>
                  cases hrun
                  exact .dropped hat (by simpa using hcomplete) heffect

theorem AtStep.turned_nextPass {s s' : Session} {scope : ScopeId} {id : TaskId} {flow : Flow}
    {result : Except Error Turn} (hat : s.AtStep scope id flow .nextPass)
    (hturn : s.turn = (result, s')) : s.Turned result s' := by
  obtain ⟨task, hwork⟩ := hat.working
  have hpublish := fun mark => publish_concluded hwork.flowAt? mark
  have hstep := hturn
  rw [hat.turn_eq, takeStep, nextPass] at hstep
  split_ifs at hstep with hfinished
  · have hbase : s.publish id = _ := hpublish false
    rw [hbase] at hstep
    cases hresult : flow.publication (s.scope (s.scopeOf id)).state with
    | error error =>
        rw [hresult] at hstep
        cases hstep
        exact .stuck hturn
    | ok value =>
        rw [hresult] at hstep
        cases hstep
        exact .published hat (.inr rfl) hresult
  · cases hdue : s.isPassDue id flow with
    | error error =>
        rw [hdue] at hstep
        cases hstep
        exact .stuck hturn
    | ok due =>
        rw [hdue] at hstep
        cases due with
        | false =>
            have hbase : (s.modifyFlow id fun flow => { flow with finished := true }).publish id =
                _ := hpublish true
            dsimp only at hstep
            rw [hbase] at hstep
            cases hresult : flow.publication (s.scope (s.scopeOf id)).state with
            | error error =>
                rw [hresult] at hstep
                cases hstep
                exact .unpublished hat hresult
            | ok value =>
                rw [hresult] at hstep
                cases hstep
                exact .published hat (.inr rfl) hresult
        | true =>
            dsimp only at hstep
            split_ifs at hstep with hlimit
            · cases hstep
              exact .stuck hturn
            · cases hstep
              exact .passOpened hat (by simpa using hfinished) hdue (by omega)

theorem AtStep.turned {s s' : Session} {scope : ScopeId} {id : TaskId} {flow : Flow}
    {step : FlowStep} {result : Except Error Turn} (hat : s.AtStep scope id flow step)
    (hturn : s.turn = (result, s')) : s.Turned result s' := by
  obtain ⟨task, hwork⟩ := hat.working
  have hstep := hturn
  rw [hat.turn_eq] at hstep
  cases step with
  | openTask decl =>
      rw [takeStep, openDeclared_eq] at hstep
      cases hshows : s.shows id flow decl with
      | error error =>
          rw [hshows] at hstep
          cases hstep
          exact .unopened hat (.inl hshows)
      | ok shown =>
          rw [hshows] at hstep
          cases shown with
          | false =>
              cases hstep
              exact .skipped hat hshows
          | true =>
              cases hactivity : s.repository.activity decl (s.ambient id flow) with
              | error error =>
                  rw [hactivity] at hstep
                  cases hstep
                  exact .unopened hat (.inr ⟨hshows, hactivity⟩)
              | ok activity =>
                  rw [hactivity] at hstep
                  cases hstep
                  exact .opened hat hshows hactivity
  | nextPass => exact hat.turned_nextPass hturn
  | foldPass =>
      rw [takeStep, foldPass] at hstep
      cases hpass : flow.pass with
      | none =>
          obtain ⟨declared, -, hnext⟩ := hat.next
          unfold Flow.nextStep at hnext
          cases hloop : flow.isLoop <;> cases hbroke : flow.broke <;>
            cases hdecl : declared.tasks[flow.cursor]? <;>
            simp [hloop, hpass, hbroke, hdecl] at hnext
      | some pass =>
          rw [hpass] at hstep
          dsimp only at hstep
          cases hsnapshot : flow.snapshotOf (s.scope pass).state (s.scope pass).result with
          | error error =>
              rw [hsnapshot] at hstep
              cases hstep
              exact .stuck hturn
          | ok snapshot =>
              rw [hsnapshot] at hstep
              cases hstep
              exact .passEnded hat hpass hsnapshot
  | publish =>
      have hpublish : s.publish id = _ := publish_concluded hwork.flowAt? false
      rw [takeStep, hpublish] at hstep
      cases hresult : flow.publication (s.scope (s.scopeOf id)).state with
      | error error =>
          rw [hresult] at hstep
          cases hstep
          exact .stuck hturn
      | ok value =>
          rw [hresult] at hstep
          cases hstep
          exact .published hat (.inl rfl) hresult

theorem Working.turned {s s' : Session} {scope : ScopeId} {id : TaskId} {task : Task}
    {flow : Flow} {result : Except Error Turn} (hwork : s.Working scope id task flow)
    (hturn : s.turn = (result, s')) : s.Turned result s' := by
  have hresume := hwork.turn_eq
  cases hcurrent : flow.current with
  | some child =>
      rw [hcurrent] at hresume
      cases hinner : s.task child.task with
      | error error =>
          have hstuck : s.turn = (.error error, s) := by
            rw [hresume]
            simp only [attend, hinner]
          rw [hstuck] at hturn
          cases hturn
          exact .stuck hstuck
      | ok inner =>
          exact AtChild.turned ⟨⟨task, hwork⟩, hcurrent, task_eq_ok_iff.mp hinner⟩ hturn
  | none =>
      rw [hcurrent] at hresume
      cases hdeclared : Keyed.get? flow.definition s.repository.flows with
      | none =>
          have hstuck : s.turn = (.error (.noFlow flow.definition), s) := by
            rw [hresume]
            simp only [proceed, hdeclared]
          rw [hstuck] at hturn
          cases hturn
          exact .stuck hstuck
      | some declared =>
          exact AtStep.turned ⟨⟨task, hwork⟩, hcurrent, declared, hdeclared, rfl⟩ hturn

/-- The list of what a turn can come to is complete. -/
theorem turned {s s' : Session} {result : Except Error Turn} (hturn : s.turn = (result, s')) :
    s.Turned result s' := by
  by_cases hidle : s.redirectedTo.isSome ∨ s.active.head? = none
  · rw [turn_of_not_running hidle] at hturn
    cases hturn
    exact .idle hidle
  · rw [not_or, Option.not_isSome_iff_eq_none] at hidle
    obtain ⟨hrunning, hactive⟩ := hidle
    obtain ⟨scope, hhead⟩ := Option.ne_none_iff_exists'.mp hactive
    cases hbound : (s.scope scope).flow with
    | none =>
        rw [turn, if_neg (by simp [hrunning]), hhead] at hturn
        dsimp only at hturn
        rw [hbound] at hturn
        cases hturn
        exact .unbound hhead hbound
    | some id =>
        have hresume := turn_of_bound hrunning hhead hbound
        cases htask : s.task id with
        | error error =>
            have hstuck : s.turn = (.error error, s) := by
              rw [hresume]
              simp only [resume, htask]
            rw [hstuck] at hturn
            cases hturn
            exact .stuck hstuck
        | ok task =>
            by_cases hcomplete : task.complete = true
            · rw [turn_of_complete hrunning hhead hbound (task_eq_ok_iff.mp htask) hcomplete]
                at hturn
              exact .left hrunning hhead hbound (task_eq_ok_iff.mp htask) hcomplete hturn
            · cases hflow : s.flow id with
              | error error =>
                  have hstuck : s.turn = (.error error, s) := by
                    rw [hresume]
                    simp only [resume, htask, hcomplete, hflow, Bool.false_eq_true, ↓reduceIte]
                  rw [hstuck] at hturn
                  cases hturn
                  exact .stuck hstuck
              | ok flow =>
                  obtain ⟨found, hfound, hruns⟩ :=
                    flowAt?_eq_some_iff.mp (flow_eq_ok_iff.mp hflow)
                  have hsame : found = task :=
                    Option.some.inj (hfound.symm.trans (task_eq_ok_iff.mp htask))
                  subst hsame
                  exact Working.turned
                    ⟨hrunning, hhead, hbound, hfound, by simpa using hcomplete, hruns⟩ hturn

end Session

end Workflow
