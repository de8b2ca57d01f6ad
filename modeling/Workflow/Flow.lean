import Workflow.Instruction

/-!
# Flows

A running flow is a place in a list of declared tasks: how far it has come, which task it has open,
and as a loop which pass.  Moving it on is the business of a session.  Here is what a flow decides
from its own data: how it starts, what a pass begins with and leaves behind, where the flow stood
and how it goes back there, and what it publishes in the end.
-/

namespace Workflow

/-- The place of a scope in a session. -/
structure ScopeId where
  index : Nat
  deriving DecidableEq, Repr, Inhabited

/-- The place of a task in a session. -/
structure TaskId where
  index : Nat
  deriving DecidableEq, Repr, Inhabited

/-- The task that a flow has open: its scope, its place among the declared tasks, and whether it was
handed out for its breakpoint. -/
structure Child where
  task : TaskId
  scope : ScopeId
  place : Nat
  interrupted : Bool
  deriving DecidableEq, Repr, Inhabited

/-- Where a flow stood. Snapshots are only ever added, so their number says which ones to keep. -/
structure FlowMark where
  cursor : Nat
  broke : Bool
  passes : Nat
  snapshots : Nat
  finished : Bool
  deriving DecidableEq, Repr, Inhabited

/-- A running flow. `items` are those of a loop over a list, `passes` counts the passes begun, and
`snapshots` holds what each finished pass left, in order. -/
structure Flow where
  definition : String
  repetition : Repetition
  settings : FlowSettings
  cursor : Nat := 0
  current : Option Child := none
  pass : Option ScopeId := none
  broke : Bool := false
  items : List Value := []
  passes : Nat := 0
  snapshots : List Value := []
  finished : Bool := false
  deriving DecidableEq, Repr, Inhabited

namespace Flow

def isLoop (flow : Flow) : Bool :=
  flow.repetition != .once

/-- The items of a loop over the list that a path leads to; nothing there or null is no items. -/
def itemsAt (definition path : String) (state : Value) : Except Error (List Value) :=
  match state.valueAt? path with
  | .ok none | .ok (some .null) => .ok []
  | .ok (some (.list items)) => .ok items
  | .ok (some _) => .error (.notAList definition path)
  | .error error => .error error

/-- A flow that starts from the enclosing state, where a loop over a list reads its items once. -/
def start (definition : String) (repetition : Repetition) (settings : FlowSettings)
    (state : Value) : Except Error Flow :=
  match repetition, settings.itemsPath with
  | .forItems, some path =>
    (itemsAt definition path state).map fun items => { definition, repetition, settings, items }
  | _, _ => .ok { definition, repetition, settings }

/-- Where the flow stands, with its cursor moved to `cursor`. -/
def markAt (flow : Flow) (cursor : Nat) : FlowMark where
  cursor
  broke := flow.broke
  passes := flow.passes
  snapshots := flow.snapshots.length
  finished := flow.finished

/-- The flow back at a mark, with nothing open but the given pass. -/
def returnTo (flow : Flow) (mark : FlowMark) (pass : Option ScopeId) : Flow :=
  { flow with
    cursor := mark.cursor
    current := none
    pass
    broke := mark.broke
    passes := mark.passes
    snapshots := flow.snapshots.take mark.snapshots
    finished := mark.finished }

/-- The state with the item of a pass: an object is merged in, anything else stands under
`item`. -/
def withItem (state item : Value) : Value :=
  match item with
  | .object _ => state.merge item
  | _ => state.merge (.object [("item", item)])

/-- The state in which the next pass begins. -/
def passStart (flow : Flow) (state : Value) : Value :=
  match flow.repetition, flow.items[flow.passes]? with
  | .forItems, some item => withItem state item
  | _, _ => state

def hasNextItem (flow : Flow) : Bool :=
  flow.passes < flow.items.length

/-- What a finished pass leaves: its result, or what the result paths compute from its state. -/
def snapshotOf (flow : Flow) (state result : Value) : Except Error Value :=
  if flow.settings.resultPaths.isEmpty then .ok result
  else Instruction.patch flow.settings.resultPaths state

/-- A flow with its pass ended: what the pass left is kept, and after a break there is no other. -/
def foldPass (flow : Flow) (snapshot : Value) : Flow :=
  { flow with
    snapshots := flow.snapshots ++ [snapshot]
    pass := none
    finished := flow.finished || flow.broke
    broke := false }

/-- What a flow leaves for the scope around it: a loop its snapshots, if it has a destination for
them; any other flow its literal result with the computed one merged over it. -/
def publication (flow : Flow) (state : Value) : Except Error Value :=
  if flow.isLoop then
    match flow.settings.destination with
    | some path => (Value.list flow.snapshots).patchAt path
    | none => .ok .empty
  else
    match Instruction.patch flow.settings.resultPaths state with
    | .ok computed =>
      ((flow.settings.literal.getD .empty).merge computed).placed flow.settings.destination
    | .error error => .error error

end Flow

end Workflow
