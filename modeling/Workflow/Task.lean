import Workflow.Flow
import Workflow.RemoteCall
import Workflow.Screen

/-!
# Tasks

A task is a declaration that has been opened in a scope of its own.  Two openings of one declaration
are two tasks.
-/

namespace Workflow

/-- What a task is, with the state of its sort. -/
inductive Activity
  | screen (screen : Screen)
  | remoteCall (call : RemoteCall)
  | flow (flow : Flow)
  | update (instructions : List Instruction)
  | redirect (url : String)
  | event (action : String)
  deriving DecidableEq, Repr, Inhabited

/-- An opened task: its scope, and the task of the flow that declared it, which only the root flow
lacks. -/
structure Task where
  name : String
  scope : ScopeId
  owner : Option TaskId
  complete : Bool
  activity : Activity
  deriving DecidableEq, Repr, Inhabited

def Repetition.sortName : Repetition → String
  | .once => "flow"
  | .whileConditions => "while_loop"
  | .forItems => "for_loop"

namespace Task

def flow? (task : Task) : Option Flow :=
  match task.activity with
  | .flow flow => some flow
  | _ => none

def isFlow (task : Task) : Bool :=
  task.flow?.isSome

def sortName (task : Task) : String :=
  match task.activity with
  | .screen _ => "screen"
  | .remoteCall _ => "jsonrpc"
  | .flow flow => flow.repetition.sortName
  | .update _ => "update"
  | .redirect _ => "redirect"
  | .event _ => "event"

/-- Whether the task waits for the program around the session. -/
def requiresInput (task : Task) : Bool :=
  !task.complete &&
    match task.activity with
    | .screen _ => true
    | .remoteCall call => call.awaitsResult
    | _ => false

end Task

end Workflow
