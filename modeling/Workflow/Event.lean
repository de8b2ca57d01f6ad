import Workflow.Value.Basic

/-!
# Events

What a session tells the program around it: redirects, recorded history, remote calls that expect no
result, markers, and requests to go back.
-/

namespace Workflow

/-- An event of a session. -/
inductive Event
  | redirect (url : String)
  | screenLeft (flow task : String)
  | remoteCall (endpoint : String) (payload : Value)
  | marker (task action : String)
  | backAsked (task : String) (handled : Bool)
  deriving DecidableEq, Repr, Inhabited

def Event.redirectUrl? : Event → Option String
  | .redirect url => some url
  | _ => none

end Workflow
