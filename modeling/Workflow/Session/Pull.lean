import Workflow.Session.Basic

/-!
# Pulling tasks

A session runs when it is pulled.  A pull takes turns; each looks at the innermost flow and does one
thing to it: hands out its child, enters its child, runs and folds its child, opens the next task,
begins or ends a pass, publishes its result, or leaves it.  The pull ends when a task needs the
program around the session, when nothing is left to run, or when a turn fails.

`pullWithin` bounds the turns; `pull` takes so many that no document whose flows do not refer
back to themselves can run out of them.
-/

namespace Workflow

/-- What one turn comes to. -/
inductive Turn
  | handOut (task : TaskId)
  | ended
  | again
  deriving DecidableEq, Repr

/-- What a pull comes to. A pull without enough turns is left unfinished. -/
inductive Pull
  | task (id : TaskId)
  | ended
  | failed (error : Error)
  | unfinished
  deriving DecidableEq, Repr

/-- What a flow without an open child does next. -/
inductive FlowStep
  | openTask (decl : TaskDecl)
  | nextPass
  | foldPass
  | publish
  deriving DecidableEq, Repr

/-- The next step of a flow over its declared tasks. A break passes over the tasks that are left. -/
def Flow.nextStep (flow : Flow) (tasks : List TaskDecl) : FlowStep :=
  let ending := if flow.isLoop then .foldPass else .publish
  if flow.isLoop && flow.pass.isNone then .nextPass
  else if flow.broke then ending
  else
    match tasks[flow.cursor]? with
    | some decl => .openTask decl
    | none => ending

namespace Session

/-- The task that a declaration gives in a scope. -/
def buildActivity (session : Session) (decl : TaskDecl) (scope : ScopeId) : Except Error Activity :=
  let state := (session.scope scope).state
  match decl.action with
  | .screen rows => (Screen.ofRows session.repository decl.name rows).map .screen
  | .remoteCall call => (RemoteCall.ofDecl call state).map .remoteCall
  | .flow repetition inline =>
    match Keyed.get? decl.name session.repository.flows with
    | some declared =>
      let settings := match inline with
        | some inline => declared.settings.overriddenBy inline
        | none => declared.settings
      (Flow.start decl.name repetition settings state).map .flow
    | none => .error (.noFlow decl.name)
  | .update instructions => .ok (.update instructions)
  | .redirect url => .ok (.redirect url)
  | .event action => .ok (.event action)

/-- Opens the declared task at the flow's cursor in a scope of its own, and moves the cursor on. A
task whose preconditions do not all pass is skipped; one that cannot be judged or built fails. Both
close the scope again and leave the cursor behind the task. -/
def openDeclared (session : Session) (id : TaskId) (flow : Flow) (decl : TaskDecl) :
    Outcome Turn :=
  let around := flow.pass.getD (session.scopeOf id)
  let moved := session.modifyFlow id fun flow => { flow with cursor := flow.cursor + 1 }
  let scope := moved.nextScope
  let seed := (moved.scope around).state
  let opened := moved.openScope seed (some around)
  match (opened.judge seed).allPass .null decl.preconditions with
  | .error error => (.error error, opened.closeScope scope)
  | .ok false => (.ok .again, opened.closeScope scope)
  | .ok true =>
    match opened.buildActivity decl scope with
    | .error error => (.error error, opened.closeScope scope)
    | .ok activity =>
      let task := opened.nextTask
      let child : Child := { task, scope, place := flow.cursor, interrupted := false }
      let withTask := opened.openTask
        { name := decl.name, scope, owner := some id, complete := false, activity }
      (.ok .again, withTask.modifyFlow id fun flow => { flow with current := some child })

/-- Whether a loop has another pass to make. -/
def isPassDue (session : Session) (id : TaskId) (flow : Flow) : Except Error Bool :=
  match flow.repetition with
  | .whileConditions =>
    if flow.settings.conditions.isEmpty then .ok false
    else
      let state := (session.scope (session.scopeOf id)).state
      (session.judge state).allPass .null flow.settings.conditions
  | .forItems => .ok flow.hasNextItem
  | .once => .ok false

/-- Completes a flow: what it publishes goes into the result of its scope. -/
def publish (session : Session) (id : TaskId) : Outcome Turn :=
  let scope := session.scopeOf id
  match session.flow id with
  | .error error => (.error error, session)
  | .ok flow =>
    match flow.publication (session.scope scope).state with
    | .error error => (.error error, session)
    | .ok result =>
      (.ok .again, (session.modifyScope scope (·.mergeResult result)).complete id)

def openPass (session : Session) (id : TaskId) (flow : Flow) : Session :=
  let around := session.scopeOf id
  let pass := session.nextScope
  let opened := session.openScope (flow.passStart (session.scope around).state) (some around)
  opened.modifyFlow id fun flow =>
    { flow with pass := some pass, cursor := 0, broke := false, passes := flow.passes + 1 }

/-- Begins another pass of a loop, if one is due and the limit allows it; a loop that makes no more
passes is finished, and publishes its result. -/
def nextPass (session : Session) (id : TaskId) (flow : Flow) : Outcome Turn :=
  if flow.finished then session.publish id
  else
    match session.isPassDue id flow with
    | .error error => (.error error, session)
    | .ok false => (session.modifyFlow id fun flow => { flow with finished := true }).publish id
    | .ok true =>
      let limit := session.settings.maxLoopPasses
      if limit ≤ flow.passes then (.error (.tooManyPasses flow.definition limit), session)
      else (.ok .again, session.openPass id flow)

/-- Ends a pass: its result goes into the state of the loop, and its snapshot is kept. -/
def foldPass (session : Session) (id : TaskId) (flow : Flow) : Outcome Turn :=
  match flow.pass with
  | none => (.ok .again, session)
  | some pass =>
    let ended := session.scope pass
    match flow.snapshotOf ended.state ended.result with
    | .error error => (.error error, session)
    | .ok snapshot =>
      let folded := session.modifyScope (session.scopeOf id) (·.mergeState ended.result)
      (.ok .again, (folded.closeScope pass).modifyFlow id (·.foldPass snapshot))

/-- What a task does that waits for nothing. -/
def effect (session : Session) (task : Task) : Except Error Session :=
  match task.activity with
  | .update instructions =>
    (Instruction.chainedPatch instructions (session.stateOf task)).map fun patch =>
      session.modifyScope task.scope (·.mergeResult patch)
  | .redirect url => .ok ({ session with redirectedTo := some url }.emit (.redirect url))
  | .event action =>
    if action = "break" then
      .ok (match task.owner with
        | some owner => session.modifyFlow owner fun flow => { flow with broke := true }
        | none => session)
    else .ok (session.emit (.marker task.name action))
  | .remoteCall call =>
    .ok (if call.awaitsResult then session
      else session.emit (.remoteCall call.endpoint call.payload))
  | .screen _ | .flow _ => .ok session

/-- Runs a child that is not complete. One that fails is dropped with its scope, and the cursor goes
back to it. -/
def runChild (session : Session) (id : TaskId) (child : Child) (task : Task) : Outcome Unit :=
  if task.complete then (.ok (), session)
  else
    match session.effect task with
    | .ok session => (.ok (), session.complete child.task)
    | .error error =>
      (.error error, (session.closeScope child.scope).modifyFlow id fun flow =>
        { flow with current := none, cursor := child.place })

/-- Merges the result of a child into the scope its flow runs in, and closes its scope. Within a
pass the result counts for the pass as well. -/
def foldChild (session : Session) (id : TaskId) (child : Child) : Session :=
  let patch := (session.scope child.scope).result
  let folded := match (session.flow id).toOption.bind Flow.pass with
    | some pass => session.modifyScope pass fun scope => (scope.mergeResult patch).mergeState patch
    | none => session.modifyScope (session.scopeOf id) (·.mergeState patch)
  (folded.closeScope child.scope).modifyFlow id fun flow => { flow with current := none }

/-- Runs a child that waits for nothing, and folds what it leaves. -/
def settleChild (session : Session) (id : TaskId) (child : Child) (task : Task) : Outcome Turn :=
  match session.runChild id child task with
  | (.ok (), session) => (.ok .again, session.foldChild id child)
  | (.error error, session) => (.error error, session)

/-- Marks the open child of a flow as handed out for its breakpoint. -/
def markInterrupted (session : Session) (id : TaskId) : Session :=
  session.modifyFlow id fun flow =>
    { flow with current := flow.current.map fun child => { child with interrupted := true } }

/-- A turn for a flow with an open child: it is handed out if it has a breakpoint that it was not
yet handed out for, or if it waits for input; a flow that is not complete is entered; anything else
is run and folded. -/
def attend (session : Session) (id : TaskId) (child : Child) : Outcome Turn :=
  match session.task child.task with
  | .error error => (.error error, session)
  | .ok task =>
    if !child.interrupted && session.settings.breakpoints.contains task.name then
      (.ok (.handOut child.task), session.markInterrupted id)
    else if task.requiresInput then (.ok (.handOut child.task), session)
    else if task.isFlow && !task.complete then
      (.ok .again, { session with active := session.active.push child.scope })
    else session.settleChild id child task

/-- A turn for a flow without an open child. -/
def proceed (session : Session) (id : TaskId) (flow : Flow) : Outcome Turn :=
  match Keyed.get? flow.definition session.repository.flows with
  | none => (.error (.noFlow flow.definition), session)
  | some declared =>
    match flow.nextStep declared.tasks with
    | .openTask decl => session.openDeclared id flow decl
    | .nextPass => session.nextPass id flow
    | .foldPass => session.foldPass id flow
    | .publish => session.publish id

/-- Leaves the innermost flow. The last one to be left closes the root scope. -/
def leave (session : Session) (scope : ScopeId) : Outcome Turn :=
  let left := { session with active := session.active.pop }
  if left.active.isEmpty then (.ok .ended, left.closeScope scope) else (.ok .again, left)

/-- A turn for the innermost flow, which runs in `scope`. -/
def resume (session : Session) (scope : ScopeId) (id : TaskId) : Outcome Turn :=
  match session.task id with
  | .error error => (.error error, session)
  | .ok task =>
    if task.complete then session.leave scope
    else
      match session.flow id with
      | .error error => (.error error, session)
      | .ok flow =>
        match flow.current with
        | some child => session.attend id child
        | none => session.proceed id flow

/-- One turn. After a redirect nothing of the document runs. -/
def turn (session : Session) : Outcome Turn :=
  if session.redirectedTo.isSome then (.ok .ended, session)
  else
    match session.active.head? with
    | none => (.ok .ended, session)
    | some scope =>
      match (session.scope scope).flow with
      | none => (.ok .again, { session with active := session.active.pop })
      | some id => session.resume scope id

/-- A pull of at most `turns` turns. -/
def pullWithin : Nat → Session → Pull × Session
  | 0, session => (.unfinished, session)
  | turns + 1, session =>
    match session.turn with
    | (.error error, session) => (.failed error, session)
    | (.ok (.handOut task), session) => (.task task, session)
    | (.ok .ended, session) => (.ended, session)
    | (.ok .again, session) => pullWithin turns session

/-- How many turns a pull may take. A flow of `n` tasks takes a few turns for each task of each pass
and those of the flows it runs, and flows nest no deeper than there are flows. Flows that refer back
to themselves under preconditions have the rest. -/
def turnLimit (session : Session) : Nat :=
  let flows := session.repository.flows
  let tasks := (flows.map fun flow => flow.2.tasks.length).foldl max 0
  let passes := session.settings.maxLoopPasses
  Nat.pow ((passes + 2) * (8 * tasks + 8)) (flows.length + 1) + Nat.pow 2 64

/-- Runs the session until a task waits for the program around it. -/
def pull (session : Session) : Pull × Session :=
  pullWithin session.turnLimit session

end Session

end Workflow
