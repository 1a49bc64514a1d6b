import Curriculum.Form.Catalogue
import Curriculum.Main
import Curriculum.Proofs.Session.Availability
import Curriculum.Proofs.Session.Restart
import Curriculum.Proofs.Session.Failures
import Curriculum.Proofs.WorldGraph.Cycles
import Curriculum.Proofs.Availability.Outcome
import Curriculum.Proofs.Session.Levels
import Curriculum.Proofs.Session.Diagnostics
import Curriculum.Proofs.Session.Remarks
import Curriculum.Proofs.Session.Statements
import Curriculum.Proofs.Session.ExitStatus
import Curriculum.Proofs.Reordering
import Curriculum.Proofs.WorldGraph.Reordered
import Curriculum.Proofs.Availability.Reordered
import Curriculum.Proofs.Session.Structure
import Curriculum.Proofs.Availability.Refusal
import Curriculum.Proofs.Session.Refusal
import Curriculum.Proofs.Session.Access
import Curriculum.Proofs.Session.View
import Curriculum.Proofs.Session.Independence
import Curriculum.Proofs.Session.Previews
import Curriculum.Proofs.Session.Integrity
import Curriculum.Proofs.WorldGraph.Detection
import Curriculum.Proofs.Schema.Reading
import Curriculum.Proofs.Form.Marks
import Curriculum.Proofs.Schema.Restoring
import Curriculum.Proofs.Form.RoundTrip
import Curriculum.Proofs.WorldGraph.LeastOrder
import Curriculum.Proofs.GoalKey.Renaming
import Curriculum.Proofs.GoalKey.Occurrences
import Curriculum.Proofs.GoalKey.Recovery
import Curriculum.Proofs.HintText
import Curriculum.Proofs.Session.Exercises
import Curriculum.Proofs.Catalogue.Calls
import Curriculum.Proofs.WorldGraph.Built
import Curriculum.Proofs.Session.Positions
import Curriculum.Proofs.Session.Frame
