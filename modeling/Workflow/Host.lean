import Workflow.Json.Basic

/-!
# The host

What the program around a session lends to it: how a text is read as a pattern, and in which words
something is refused that is no document.  Nothing is assumed of a host, so what is proved about
sessions holds for all of them.
-/

namespace Workflow

/-- What a text means as a pattern: in which texts it occurs, or why it is no pattern. -/
abbrev PatternReader := String → Except String (String → Bool)

/-- The readers and the words that a host lends. -/
structure Host where
  readPattern : PatternReader
  textFault : String → String
  valueFault : Json → String
  deriving Inhabited

end Workflow
