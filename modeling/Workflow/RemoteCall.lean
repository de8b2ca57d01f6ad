import Workflow.Instruction

/-!
# Remote calls

A remote call is a request for the program around the session to make.  A call with a destination
waits for its result; a call without one is made and forgotten.
-/

namespace Workflow

/-- A call ready to be made. -/
structure RemoteCall where
  endpoint : String
  method : Option String
  payload : Value
  destination : Option String
  deriving DecidableEq, Repr, Inhabited

namespace RemoteCall

/-- The call of a declaration: its literal payload with the computed parts merged over it. -/
def ofDecl (decl : RemoteCallDecl) (state : Value) : Except Error RemoteCall :=
  (Instruction.patch decl.payloadPaths state).map fun computed =>
    { endpoint := decl.url
      method := decl.method
      payload := decl.payload.merge computed
      destination := decl.destination }

def awaitsResult (call : RemoteCall) : Bool :=
  call.destination.isSome

/-- The patch for a result of the call: the result at the destination, or nothing without one. -/
def answerPatch (call : RemoteCall) (value : Value) : Except Error Value :=
  match call.destination with
  | some path => value.patchAt path
  | none => .ok .empty

end RemoteCall

end Workflow
