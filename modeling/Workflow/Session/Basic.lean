import Workflow.Document.References
import Workflow.Event
import Workflow.Scope
import Workflow.Session.Settings
import Workflow.Stack.Cursor
import Workflow.Task

/-!
# Sessions

A session runs one document.  It keeps every scope and every task it ever opened, each at the place
at which it was opened; a cursor over the scopes of the flows being run, the innermost first; and a
cursor over the history of screens that were left.  Events that nobody has taken yet wait in its
queue.

Here are the parts of a session, what opens and closes them, and what a reader may ask.  An
operation that can fail gives an `Outcome`: the state after a failure is part of it, because what
was opened before the failure stays.
-/

namespace Workflow

/-- A screen that was left: the flow that had it open and where that flow stood, the trees of the
flow's scope, and those of the pass it had open. -/
structure Visit where
  flow : TaskId
  mark : FlowMark
  state : Value
  result : Value
  pass : Option (Value × Value)
  screen : String
  deriving DecidableEq, Repr, Inhabited

/-- A running document. -/
structure Session where
  repository : Repository
  settings : SessionSettings
  scopes : Array Scope
  tasks : Array Task
  active : Cursor ScopeId
  history : Cursor Visit
  root : TaskId
  redirectedTo : Option String
  events : Array Event
  ownsEvents : Bool
  deriving Inhabited

/-- What an operation answers, and the session after it. -/
abbrev Outcome (α : Type) := Except Error α × Session

namespace Session

/-- The scope at a place. Places come from the session, so there is one. -/
def scope (session : Session) (id : ScopeId) : Scope :=
  session.scopes[id.index]?.getD (.opened .empty none)

def task (session : Session) (id : TaskId) : Except Error Task :=
  match session.tasks[id.index]? with
  | some task => .ok task
  | none => .error (.foreignTask id.index)

def mismatch (task : Task) (expected : String) : Error :=
  .otherSort task.name expected task.sortName

def flow (session : Session) (id : TaskId) : Except Error Flow :=
  match session.task id with
  | .ok task =>
    match task.flow? with
    | some flow => .ok flow
    | none => .error (mismatch task "flow")
  | .error error => .error error

def scopeOf (session : Session) (id : TaskId) : ScopeId :=
  (session.tasks[id.index]?.map Task.scope).getD default

/-- The flow that declared a task. -/
def ownerOf (session : Session) (id : TaskId) : Option TaskId :=
  session.tasks[id.index]?.bind Task.owner

def rootScope (session : Session) : ScopeId :=
  session.scopeOf session.root

/-- The state that a task sees. -/
def stateOf (session : Session) (task : Task) : Value :=
  (session.scope task.scope).state

/-- The validators of the document, reading one state. -/
def judge (session : Session) (state : Value) : Judge :=
  session.repository.judge session.settings.host state

def modifyScope (session : Session) (id : ScopeId) (change : Scope → Scope) : Session :=
  { session with scopes := session.scopes.modify id.index change }

def modifyTask (session : Session) (id : TaskId) (change : Task → Task) : Session :=
  { session with tasks := session.tasks.modify id.index change }

def modifyFlow (session : Session) (id : TaskId) (change : Flow → Flow) : Session :=
  session.modifyTask id fun task =>
    match task.activity with
    | .flow flow => { task with activity := .flow (change flow) }
    | _ => task

def complete (session : Session) (id : TaskId) : Session :=
  session.modifyTask id fun task => { task with complete := true }

def emit (session : Session) (event : Event) : Session :=
  { session with events := session.events.push event }

def nextScope (session : Session) : ScopeId :=
  ⟨session.scopes.size⟩

/-- Opens a scope at the next place. -/
def openScope (session : Session) (state : Value) (parent : Option ScopeId) : Session :=
  { session with scopes := session.scopes.push (.opened state parent) }

/-- Closes a scope. All but the root scope lose their trees, so the state and the result of a
session can be read to the end. -/
def closeScope (session : Session) (id : ScopeId) : Session :=
  let keepsTrees := id == session.rootScope
  session.modifyScope id (·.release keepsTrees)

def nextTask (session : Session) : TaskId :=
  ⟨session.tasks.size⟩

/-- Opens a task at the next place and binds it to its scope. -/
def openTask (session : Session) (task : Task) : Session :=
  let id := session.nextTask
  let session := { session with tasks := session.tasks.push task }
  session.modifyScope task.scope (·.bind id task.isFlow)

/-- A session of a sound document that has not run yet: its starting flow is open in the root scope,
with the context of the document as its state. -/
def start (document : Document) (settings : SessionSettings) (ownsEvents : Bool) :
    Except Error Session := do
  let document ← document.checked
  let name := document.startingFlow
  let flowSettings ← match Keyed.get? name document.repository.flows with
    | some decl => .ok decl.settings
    | none => .error (.noFlow name)
  let flow ← Flow.start name .once flowSettings document.context
  let scope : ScopeId := ⟨0⟩
  let blank : Session :=
    { repository := document.repository
      settings
      scopes := #[]
      tasks := #[]
      active := .empty
      history := .empty
      root := ⟨0⟩
      redirectedTo := none
      events := #[]
      ownsEvents }
  let opened := (blank.openScope document.context none).openTask
    { name, scope, owner := none, complete := false, activity := .flow flow }
  return { opened with active := opened.active.push scope }

def state (session : Session) : Value :=
  (session.scope session.rootScope).state

/-- What the root flow has published: nothing until the session is finished. -/
def result (session : Session) : Value :=
  (session.scope session.rootScope).result

def isFinished (session : Session) : Bool :=
  session.active.isEmpty

def depth (session : Session) : Nat :=
  session.active.depth

def historyDepth (session : Session) : Nat :=
  session.history.depth

/-- The waiting events, and the session without them. -/
def drainEvents (session : Session) : List Event × Session :=
  (session.events.toList, { session with events := #[] })

/-- The waiting events, if they are the session's own to give. -/
def takeEvents (session : Session) : List Event × Session :=
  if session.ownsEvents then session.drainEvents else ([], session)

/-- The session that interrupts before tasks of one more name. -/
def setBreakpoint (session : Session) (name : String) : Session :=
  { session with settings := session.settings.insertBreakpoint name }

end Session

end Workflow
