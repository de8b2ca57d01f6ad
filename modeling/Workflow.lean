import Workflow.Proofs.Client.Ending
import Workflow.Proofs.Client.Events
import Workflow.Proofs.Document.Completeness
import Workflow.Proofs.Document.Destinations
import Workflow.Proofs.Failures.Screens
import Workflow.Proofs.Instruction.Chaining
import Workflow.Proofs.Instruction.Literals
import Workflow.Proofs.Interpreter.Flows
import Workflow.Proofs.Path.Landing
import Workflow.Proofs.Path.Quoting
import Workflow.Proofs.Path.RoundTrip
import Workflow.Proofs.Pattern.Matching
import Workflow.Proofs.Rule.Integers
import Workflow.Proofs.Screen.Results
import Workflow.Proofs.Screen.Validation
import Workflow.Proofs.Session.Accumulation
import Workflow.Proofs.Session.Calls
import Workflow.Proofs.Session.Clicks
import Workflow.Proofs.Session.Confinement
import Workflow.Proofs.Session.Duration
import Workflow.Proofs.Session.Failures
import Workflow.Proofs.Session.Finishing
import Workflow.Proofs.Session.HandedOut
import Workflow.Proofs.Session.Indices
import Workflow.Proofs.Session.Loops
import Workflow.Proofs.Session.Objects
import Workflow.Proofs.Session.Polling
import Workflow.Proofs.Session.Redirecting
import Workflow.Proofs.Session.Resolution
import Workflow.Proofs.Session.Retry
import Workflow.Proofs.Session.Return
import Workflow.Proofs.Session.Submitting
import Workflow.Proofs.Session.Transparency
import Workflow.Proofs.Session.Views
import Workflow.Proofs.Source.Containment
import Workflow.Proofs.Stack.Persistence
import Workflow.Proofs.Template.Rendering
import Workflow.Proofs.Value.Overlay
