import Workflow.Error
import Workflow.Keyed
import Workflow.Source.FileTree

/-!
# Sources of documents

A source answers requests for the text at a url.  It may change while it is used and may fail at any
time, so its answer depends on the number of the request as well.
-/

namespace Workflow

/-- Answers the request with the given number for a url. -/
structure Source where
  fetch : Nat → String → Except Error String

namespace Source

def ofTexts (texts : List (String × String)) : Source where
  fetch _ url :=
    match Keyed.get? url texts with
    | some text => .ok text
    | none => .error (.noDocument url .unregistered)

def ofDirectory (root : String) (tree : FileTree) : Source where
  fetch _ url :=
    let path := Location.resolve root url
    match tree.read? path with
    | some text => .ok text
    | none => .error (.noDocument url (.unreadable path (tree.unreadable path)))

end Source

end Workflow
