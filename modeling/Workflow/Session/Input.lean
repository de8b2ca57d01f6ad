import Workflow.Session.Back

/-!
# Acting on tasks

What the program around a session does with a task it was handed: look at the components of a
screen, set and click them, read a remote call and answer it.  Only tasks that are not complete take
input.  Going back apart, input changes nothing outside the task and its scope: the flow around it
learns of a completed task at the next pull.
-/

namespace Workflow.Session

def screenTask (session : Session) (id : TaskId) : Except Error (Task × Screen) :=
  match session.task id with
  | .ok task =>
    match task.activity with
    | .screen screen => .ok (task, screen)
    | _ => .error (mismatch task "screen")
  | .error error => .error error

def remoteCall (session : Session) (id : TaskId) : Except Error RemoteCall :=
  match session.task id with
  | .ok task =>
    match task.activity with
    | .remoteCall call => .ok call
    | _ => .error (mismatch task "jsonrpc")
  | .error error => .error error

/-- The task, which must not be complete. -/
def openTaskAt (session : Session) (id : TaskId) : Except Error Task :=
  match session.task id with
  | .ok task => if task.complete then .error (.taskIsComplete task.name) else .ok task
  | .error error => .error error

/-- The screen of a task that is not complete, and the task. -/
def openScreen (session : Session) (id : TaskId) : Except Error (Task × Screen) := do
  let _ ← session.openTaskAt id
  session.screenTask id

def setScreen (session : Session) (id : TaskId) (screen : Screen) : Session :=
  session.modifyTask id fun task => { task with activity := .screen screen }

/-- The validators of the document, reading the state of a task. -/
def taskJudge (session : Session) (task : Task) : Judge :=
  session.judge (session.stateOf task)

/-- What a screen shows, component by component. -/
def components (session : Session) (id : TaskId) : Except Error (List Component.View) := do
  let (task, screen) ← session.screenTask id
  let judge := session.taskJudge task
  let shown ← screen.shown judge
  shown.mapM fun component => component.view judge

def errors (session : Session) (id : TaskId) : Except Error (List (String × List String)) :=
  (session.screenTask id).map fun pair => pair.2.errors

/-- Sets the value of a shown component. -/
def fillIn (session : Session) (id : TaskId) (field : String) (value : Value) : Outcome Unit :=
  let changed := do
    let (task, screen) ← session.openScreen id
    screen.set task.name field value (session.taskJudge task)
  match changed with
  | .ok screen => (.ok (), session.setScreen id screen)
  | .error error => (.error error, session)

/-- Runs the validators of a screen and keeps their messages; tells whether all is valid. -/
def judgeScreen (session : Session) (id : TaskId) : Outcome Bool :=
  match session.screenTask id with
  | .error error => (.error error, session)
  | .ok (task, screen) =>
    let (valid, screen) := screen.validate (session.taskJudge task)
    (valid, session.setScreen id screen)

/-- Completes a screen with the values of its components as its result. The screen is recorded
first, so it stays recorded if the result cannot be computed. -/
def leaveScreen (session : Session) (id : TaskId) : Outcome Unit :=
  match session.task id with
  | .error error => (.error error, session)
  | .ok task =>
    if task.complete then (.ok (), session)
    else
      let recorded :=
        if session.settings.recordHistory then session.recordHistory id else .ok session
      match recorded with
      | .error error => (.error error, session)
      | .ok session =>
        let result := do
          let (task, screen) ← session.screenTask id
          screen.result (session.taskJudge task)
        match result with
        | .error error => (.error error, session)
        | .ok result =>
          (.ok (), (session.modifyScope task.scope (·.mergeResult result)).complete id)

/-- Completes a screen if all that is shown on it is valid. -/
def submit (session : Session) (id : TaskId) : Outcome Unit :=
  match session.judgeScreen id with
  | (.ok true, session) => session.leaveScreen id
  | (.ok false, session) => (.ok (), session)
  | (.error error, session) => (.error error, session)

/-- Carries out an action of a screen. An action of another name does nothing. -/
def performAction (session : Session) (id : TaskId) (action : String) : Outcome Unit :=
  if action = "submit" then session.submit id
  else if action = "next" then session.leaveScreen id
  else if action = "back" then
    let (outcome, session) := session.goBack id
    (outcome.map fun _ => (), session)
  else (.ok (), session)

/-- Carries out one effect of a click. A patch goes to the state and to the result of the task. -/
def perform (session : Session) (id : TaskId) : ClickEffect → Outcome Unit
  | .update patch =>
    (.ok (), session.modifyScope (session.scopeOf id) fun scope =>
      (scope.mergeResult patch).mergeState patch)
  | .action name => session.performAction id name

/-- Carries out the effects of a click, from the first on, until one fails. -/
def performAll (session : Session) (id : TaskId) : List ClickEffect → Outcome Unit
  | [] => (.ok (), session)
  | effect :: rest =>
    match session.perform id effect with
    | (.ok (), session) => session.performAll id rest
    | (.error error, session) => (.error error, session)

/-- Clicks a shown component and carries out what the click asks for. -/
def click (session : Session) (id : TaskId) (component : String) : Outcome Unit :=
  match session.openScreen id with
  | .error error => (.error error, session)
  | .ok (task, screen) =>
    let (effects, screen) := screen.click task.name component (session.taskJudge task)
    let clicked := session.setScreen id screen
    match effects with
    | .ok effects => clicked.performAll id effects
    | .error error => (.error error, clicked)

/-- Gives a remote call its result, and so completes it. -/
def answer (session : Session) (id : TaskId) (value : Value) : Outcome Unit :=
  let patch := do
    let call ← session.remoteCall id
    let patch ← call.answerPatch value
    let _ ← session.openTaskAt id
    return patch
  match patch with
  | .error error => (.error error, session)
  | .ok patch =>
    (.ok (), (session.modifyScope (session.scopeOf id) (·.mergeResult patch)).complete id)

end Workflow.Session
