import Workflow.Document.References
import Workflow.Event
import Workflow.Flow
import Workflow.Judge
import Workflow.RemoteCall

/-!
# Running a document by recursion

The interpreter of this module runs a document as a recursion over its flows and their tasks.  It
opens no scopes and no tasks, and it keeps no cursor and no stack: a flow works on a copy of the
state around it, a loop on one more copy for each pass, and what a flow leaves is returned to the
flow that ran it.

It runs what waits for nothing.  A task that needs the program around a session is beyond it, and so
is a flow that is nested deeper than the given depth; both leave a run stuck.
-/

namespace Workflow

namespace Interpreter

/-- What a run comes to, with the events that it emitted. -/
inductive Result (α : Type)
  | done (value : α) (events : List Event)
  | failed (error : Error) (events : List Event)
  | stuck
  deriving DecidableEq, Repr

namespace Result

variable {α β : Type}

/-- The result of a run that comes after some events. -/
def after (earlier : List Event) : Result α → Result α
  | .done value events => .done value (earlier ++ events)
  | .failed error events => .failed error (earlier ++ events)
  | .stuck => .stuck

/-- A run and, if it is done, the one that goes on from it. -/
def andThen (first : Result α) (next : α → Result β) : Result β :=
  match first with
  | .done value events => (next value).after events
  | .failed error events => .failed error events
  | .stuck => .stuck

def ofExcept : Except Error α → Result α
  | .ok value => .done value []
  | .error error => .failed error []

@[simp] theorem after_nil (result : Result α) : result.after [] = result := by
  cases result <;> rfl

theorem after_after (result : Result α) (earlier later : List Event) :
    (result.after later).after earlier = result.after (earlier ++ later) := by
  cases result <;> simp [after, List.append_assoc]

theorem after_andThen (result : Result α) (earlier : List Event) (next : α → Result β) :
    (result.after earlier).andThen next = (result.andThen next).after earlier := by
  cases result with
  | done value events => exact (after_after (next value) earlier events).symm
  | failed error events => rfl
  | stuck => rfl

theorem andThen_assoc {γ : Type} (first : Result α) (next : α → Result β) (last : β → Result γ) :
    (first.andThen next).andThen last =
      first.andThen fun value => (next value).andThen last := by
  cases first with
  | done value events => exact after_andThen (next value) events last
  | failed error events => rfl
  | stuck => rfl

@[simp] theorem done_andThen (value : α) (next : α → Result β) :
    (done value []).andThen next = next value :=
  after_nil (next value)

@[simp] theorem ofExcept_ok_andThen (value : α) (next : α → Result β) :
    (ofExcept (.ok value)).andThen next = next value :=
  after_nil (next value)

@[simp] theorem ofExcept_error_andThen (error : Error) (next : α → Result β) :
    (ofExcept (.error error)).andThen next = .failed error [] := rfl

end Result

/-- The state that the tasks of a flow run on, what they have left of their own so far, and whether
a break stopped them. -/
structure Body where
  state : Value
  result : Value
  broke : Bool
  deriving DecidableEq, Repr

/-- What a task leaves: the patch for the state around it, and whether it stops its flow. -/
structure Leaving where
  patch : Value
  breaks : Bool
  deriving DecidableEq, Repr

/-- What a pass of a loop leaves: its result and its snapshot, and whether a break ended it. -/
structure Pass where
  result : Value
  snapshot : Value
  broke : Bool
  deriving DecidableEq, Repr

/-- What a flow ends with: its result, and the state that it came to. -/
structure Ending where
  result : Value
  state : Value
  deriving DecidableEq, Repr

/-- The tasks with what one more of them left. -/
def Body.fold (body : Body) (leaving : Leaving) : Body where
  state := body.state.merge leaving.patch
  result := body.result.merge leaving.patch
  broke := leaving.breaks

/-- Runs a task on a state; `enter` runs a flow. -/
def runTask (enter : Flow → Value → Result Ending) (repository : Repository) (decl : TaskDecl)
    (state : Value) : Result Leaving :=
  match decl.action with
  | .update instructions =>
    (Result.ofExcept (Instruction.chainedPatch instructions state)).andThen fun patch =>
      .done { patch, breaks := false } []
  | .remoteCall call =>
    (Result.ofExcept (RemoteCall.ofDecl call state)).andThen fun call =>
      if call.awaitsResult then .stuck
      else .done { patch := .empty, breaks := false } [.remoteCall call.endpoint call.payload]
  | .event action =>
    if action = "break" then .done { patch := .empty, breaks := true } []
    else .done { patch := .empty, breaks := false } [.marker decl.name action]
  | .flow repetition inline =>
    match Keyed.get? decl.name repository.flows with
    | none => .failed (.noFlow decl.name) []
    | some declared =>
      let settings := match inline with
        | some inline => declared.settings.overriddenBy inline
        | none => declared.settings
      (Result.ofExcept (Flow.start decl.name repetition settings state)).andThen fun flow =>
        (enter flow state).andThen fun ending =>
          .done { patch := ending.result, breaks := false } []
  | .screen _ | .redirect _ => .stuck

/-- Runs tasks one after another. A task is skipped unless all its preconditions pass on the state
that those before it left; after a break no other task runs. -/
def runTasks (enter : Flow → Value → Result Ending) (repository : Repository) (host : Host) :
    List TaskDecl → Body → Result Body
  | [], body => .done body []
  | decl :: rest, body =>
    match (repository.judge host body.state).allPass .null decl.preconditions with
    | .error error => .failed error []
    | .ok false => runTasks enter repository host rest body
    | .ok true =>
      (runTask enter repository decl body.state).andThen fun leaving =>
        if leaving.breaks then .done (body.fold leaving) []
        else runTasks enter repository host rest (body.fold leaving)

/-- Whether a loop has another pass to make from a state. -/
def isDue (repository : Repository) (host : Host) (flow : Flow) (state : Value) :
    Except Error Bool :=
  match flow.repetition with
  | .whileConditions =>
    if flow.settings.conditions.isEmpty then .ok false
    else (repository.judge host state).allPass .null flow.settings.conditions
  | .forItems => .ok flow.hasNextItem
  | .once => .ok false

def runPass (runBody : Value → Result Body) (flow : Flow) (state : Value) : Result Pass :=
  (runBody (flow.passStart state)).andThen fun body =>
    (Result.ofExcept (flow.snapshotOf body.state body.result)).andThen fun snapshot =>
      .done { result := body.result, snapshot, broke := body.broke } []

/-- The flow after one more pass. -/
def passed (flow : Flow) (snapshot : Value) : Flow :=
  { flow with passes := flow.passes + 1, snapshots := flow.snapshots ++ [snapshot] }

/-- Makes the passes of a loop, at most as many as are left, and gives the loop and its state after
the last one. A pass begins with a copy of the state of the loop, which gets the result of the pass
when it ends; after a break there is no other pass. -/
def runPasses (runBody : Value → Result Body) (repository : Repository) (host : Host)
    (limit left : Nat) (flow : Flow) (state : Value) : Result (Flow × Value) :=
  match isDue repository host flow state with
  | .error error => .failed error []
  | .ok false => .done (flow, state) []
  | .ok true =>
    match left with
    | 0 => .failed (.tooManyPasses flow.definition limit) []
    | left + 1 =>
      (runPass runBody flow state).andThen fun pass =>
        if pass.broke then .done (passed flow pass.snapshot, state.merge pass.result) []
        else runPasses runBody repository host limit left (passed flow pass.snapshot)
          (state.merge pass.result)
termination_by structural left

/-- What a flow publishes from its last state is laid over the empty tree. -/
def publish (flow : Flow) (state : Value) : Result Ending :=
  (Result.ofExcept (flow.publication state)).andThen fun published =>
    .done { result := Value.empty.merge published, state } []

/-- Runs a flow on a copy of the state around it, with at most `depth` flows nested in each other.
Of the flow itself its declared data counts, and as a loop the passes that it made. -/
def runFlow (repository : Repository) (host : Host) (limit : Nat) :
    Nat → Flow → Value → Result Ending
  | 0, _, _ => .stuck
  | depth + 1, flow, state =>
    match Keyed.get? flow.definition repository.flows with
    | none => .failed (.noFlow flow.definition) []
    | some declared =>
      let runBody := fun state => runTasks (runFlow repository host limit depth) repository host
        declared.tasks { state, result := .empty, broke := false }
      if flow.isLoop then
        (runPasses runBody repository host limit limit flow state).andThen fun last =>
          publish last.1 last.2
      else (runBody state).andThen fun body => publish flow body.state

/-- Runs the starting flow of a document on its context. -/
def run (document : Document) (host : Host) (limit : Nat) : Result Ending :=
  let name := document.startingFlow
  match Keyed.get? name document.repository.flows with
  | none => .failed (.noFlow name) []
  | some declared =>
    runFlow document.repository host limit document.repository.flows.length
      { definition := name, repetition := .once, settings := declared.settings } document.context

end Interpreter

end Workflow
