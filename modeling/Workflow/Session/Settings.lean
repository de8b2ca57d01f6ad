import Workflow.Document.Reader
import Workflow.Host

/-!
# Settings of a session
-/

namespace Workflow

/-- Settings of a session: the names of tasks that interrupt before they run, the greatest number of
passes of a loop, whether screens that are left are recorded, and the host. -/
structure SessionSettings where
  breakpoints : List String := []
  maxLoopPasses : Nat := 10000
  recordHistory : Bool := true
  host : Host := default
  deriving Inhabited

namespace SessionSettings

open Reading in
/-- Settings for a host, each of which has a default. -/
def read (host : Host) (json : Json) : Reading SessionSettings := do
  let record ← Record.read ["breakpoints", "max_loop_passes", "record_history"] json
  record.finish <| (SessionSettings.mk · · · host)
    <$> record.field ["breakpoints"] names []
    <*> record.field ["max_loop_passes"] count 10000
    <*> record.field ["record_history"] bool true

def appendBreakpoint (settings : SessionSettings) (name : String) : SessionSettings :=
  { settings with breakpoints := settings.breakpoints ++ [name] }

/-- The settings with a breakpoint that may be there already. -/
def insertBreakpoint (settings : SessionSettings) (name : String) : SessionSettings :=
  if settings.breakpoints.contains name then settings else settings.appendBreakpoint name

end SessionSettings

end Workflow
