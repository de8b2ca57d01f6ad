import Workflow.Flow

/-!
# Scopes

Every task runs in a scope of its own, and so does every pass of a loop.  A scope owns a state,
which begins as a copy of the state around it, and a result, which is all that comes back to the
scope around it.
-/

namespace Workflow

/-- A scope. `flow` is the flow task it belongs to, if its task is one. -/
structure Scope where
  state : Value
  result : Value
  parent : Option ScopeId
  task : Option TaskId
  flow : Option TaskId
  released : Bool
  deriving DecidableEq, Repr, Inhabited

namespace Scope

def opened (state : Value) (parent : Option ScopeId) : Scope where
  state
  result := .empty
  parent
  task := none
  flow := none
  released := false

def mergeState (scope : Scope) (patch : Value) : Scope :=
  { scope with state := scope.state.merge patch }

def mergeResult (scope : Scope) (patch : Value) : Scope :=
  { scope with result := scope.result.merge patch }

def bind (scope : Scope) (task : TaskId) (isFlow : Bool) : Scope :=
  { scope with task := some task, flow := if isFlow then some task else scope.flow }

/-- The scope open again on other trees. -/
def reopen (scope : Scope) (state result : Value) : Scope :=
  { scope with state, result, released := false }

/-- The scope closed. Only a scope that was open loses its trees, unless it keeps them. -/
def release (scope : Scope) (keepsTrees : Bool) : Scope :=
  if scope.released then scope
  else if keepsTrees then { scope with released := true }
  else { scope with released := true, state := .empty, result := .empty }

end Scope

end Workflow
