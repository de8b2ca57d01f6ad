import Workflow.Session.Basic

/-!
# History and going back

A screen that is left is recorded with the trees and the position of the flow that had it open.
Going back returns that flow to the newest record.  A record belongs to one running flow and not to
a name: a request is handled only if it comes from the innermost flow and the recorded flow is that
flow or one around it.  The scopes on the way are closed once this is certain, and not before.
-/

namespace Workflow.Session

/-- The record of a screen about to be left: none if its flow has another task open, or if it has no
flow. -/
def visitOf (session : Session) (id : TaskId) : Except Error (Option (Flow × Visit)) := do
  let task ← session.task id
  match task.owner with
  | none => return none
  | some owner =>
    let flow ← session.flow owner
    match flow.current with
    | none => return none
    | some child =>
      if child.task = id then
        let scope := session.scope (session.scopeOf owner)
        let trees := fun pass => ((session.scope pass).state, (session.scope pass).result)
        return some (flow,
          { flow := owner
            mark := flow.markAt child.place
            state := scope.state
            result := scope.result
            pass := flow.pass.map trees
            screen := task.name })
      else return none

/-- Records a screen about to be left. -/
def recordHistory (session : Session) (id : TaskId) : Except Error Session :=
  (session.visitOf id).map fun
    | none => session
    | some (flow, entry) =>
      { session with history := session.history.push entry }.emit
        (.screenLeft flow.definition entry.screen)

/-- The scope of `owner` among the given scopes of running flows, the innermost first, if every flow
up to it is the one that declared the flow before it, beginning with the flow of the requester. -/
def returnTarget? (session : Session) (owner : TaskId) :
    Option TaskId → List ScopeId → Option ScopeId
  | _, [] => none
  | requester, scope :: outer =>
    match (session.scope scope).flow with
    | none => session.returnTarget? owner requester outer
    | some flow =>
      if some flow ≠ requester then none
      else if flow = owner then some scope
      else session.returnTarget? owner (session.ownerOf flow) outer

/-- Closes the scopes of the child and of the pass that a flow has open. -/
def closeInside (session : Session) (id : TaskId) : Session :=
  match session.flow id with
  | .error _ => session
  | .ok flow => ((flow.current.map Child.scope).toList ++ flow.pass.toList).foldl closeScope session

/-- Leaves the innermost flow in the middle of its work. -/
def abandon (session : Session) (scope : ScopeId) : Session :=
  let left := { session with active := session.active.pop }
  let closed := match (left.scope scope).flow with
    | some flow => left.closeInside flow
    | none => left
  closed.closeScope scope

/-- Leaves the given scopes, the innermost first, up to `target`. -/
def unwindTo (target : ScopeId) : List ScopeId → Session → Session
  | [], session => session
  | scope :: outer, session =>
    if scope = target then session else unwindTo target outer (session.abandon scope)

/-- Opens a scope for a recorded pass, with the trees it had. -/
def reopenPass (session : Session) (target : ScopeId) :
    Option (Value × Value) → Option ScopeId × Session
  | none => (none, session)
  | some (state, result) =>
    let pass := session.nextScope
    (some pass, (session.openScope state (some target)).modifyScope pass (·.mergeResult result))

/-- Returns the flow of a record, which runs in `target`, to where it was recorded, and forgets the
record. -/
def restore (session : Session) (target : ScopeId) (entry : Visit) : Session :=
  let unwound := unwindTo target session.active.toList session
  let closed := unwound.closeInside entry.flow
  let reopened := closed.modifyScope target (·.reopen entry.state entry.result)
  let (pass, reopened) := reopened.reopenPass target entry.pass
  let rewound := reopened.modifyFlow entry.flow (·.returnTo entry.mark pass)
  { rewound with history := rewound.history.pop }

/-- Goes back at the request of a task, and tells whether some flow could. -/
def goBack (session : Session) (id : TaskId) : Outcome Bool :=
  match session.task id with
  | .error error => (.error error, session)
  | .ok task =>
    let found := session.history.head?.bind fun entry =>
      (session.returnTarget? entry.flow task.owner session.active.toList).map ((·, entry))
    match found with
    | none => (.ok false, session.emit (.backAsked task.name false))
    | some (target, entry) =>
      (.ok true, (session.restore target entry).emit (.backAsked task.name true))

end Workflow.Session
