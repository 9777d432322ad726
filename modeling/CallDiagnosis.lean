import CallDiagnosis.Boundary.Command
import CallDiagnosis.Kernel.Tree
import CallDiagnosis.Log.Backend
import CallDiagnosis.Scenario
import CallDiagnosis.Proofs.Inquiry.Sequencing
import CallDiagnosis.Proofs.Path.Reach
import CallDiagnosis.Proofs.Walk.Looks
import CallDiagnosis.Proofs.Walk.Obstacle
import CallDiagnosis.Proofs.Limit.Capture
import CallDiagnosis.Proofs.Limit.History
import CallDiagnosis.Proofs.Session.Transition
import CallDiagnosis.Proofs.Session.Limits
import CallDiagnosis.Proofs.Session.Ownership
import CallDiagnosis.Proofs.Boundary.Slot
import CallDiagnosis.Proofs.Walk.Calls
import CallDiagnosis.Proofs.Path.Plain
import CallDiagnosis.Proofs.Viewpoint.Composition
import CallDiagnosis.Proofs.Call.Outcome
import CallDiagnosis.Proofs.Session.Course
import CallDiagnosis.Proofs.Session.Enabled
import CallDiagnosis.Proofs.Path.Respelling
import CallDiagnosis.Proofs.Call.Respelling
import CallDiagnosis.Proofs.Session.Failure
import CallDiagnosis.Proofs.Boundary.Requests
import CallDiagnosis.Proofs.Boundary.Refinement
import CallDiagnosis.Proofs.Boundary.Disabled
import CallDiagnosis.Proofs.Inquiry.Steady
import CallDiagnosis.Proofs.Session.Series
import CallDiagnosis.Proofs.Log.Control
import CallDiagnosis.Proofs.Session.Frame
import CallDiagnosis.Proofs.Session.Independence
import CallDiagnosis.Proofs.Inquiry.Noting
import CallDiagnosis.Proofs.Session.Logging
import CallDiagnosis.Proofs.Call.Absence
import CallDiagnosis.Proofs.Text.Octal
import CallDiagnosis.Proofs.Walk.Leaf
import CallDiagnosis.Proofs.Inquiry.Confined
import CallDiagnosis.Proofs.Limit.Answer
import CallDiagnosis.Proofs.Walk.Lengths
import CallDiagnosis.Proofs.Walk.WholePath
import CallDiagnosis.Proofs.Path.Cancelling
import CallDiagnosis.Proofs.Viewpoint.Folded
import CallDiagnosis.Proofs.Call.Fallback
import CallDiagnosis.Proofs.Call.Following
import CallDiagnosis.Proofs.Call.Opening
import CallDiagnosis.Proofs.Call.Removal
import CallDiagnosis.Proofs.Path.Climbing
import CallDiagnosis.Proofs.Kernel.Search
import CallDiagnosis.Proofs.Text.Letters
import CallDiagnosis.Proofs.Settings.Grammar
import CallDiagnosis.Proofs.Session.Directives
import CallDiagnosis.Proofs.Text.Framing
import CallDiagnosis.Proofs.Call.ReadBack
import CallDiagnosis.Proofs.Path.Joining
import CallDiagnosis.Proofs.Path.Containing
import CallDiagnosis.Proofs.Session.Unswayed
