import GateOperator.Api.Call
import GateOperator.Arguments.Command
import GateOperator.Files.Tree
import GateOperator.Log.Filter
import GateOperator.Pass.Basic

/-!
What a run of the program finds around it, and what it leaves. The words for a failure come in two parts,
what was being done and what went wrong, of which the second may be missing.
-/

namespace GateOperator.Program

/-- What a run finds. -/
structure Surroundings where
  environment : Arguments.Environment
  files : Files.Tree
  /-- What tells the process from others. -/
  process : String
  /-- The server of the cluster; none when nothing says how to reach one. -/
  server : Option Api.Server
  /-- Nothing else listens on an address. -/
  isFree : Address → Bool

/-- What was being done when something failed, and what went wrong. -/
structure Complaint where
  doing : String
  cause : Option String := none
deriving DecidableEq

/-- The words for a failure. -/
def Complaint.text (c : Complaint) : String :=
  "Error: " ++ c.doing ++
    match c.cause with
    | none => ""
    | some cause => "\n\nCaused by:\n    " ++ cause

/-- How far a run goes. -/
inductive Ending where
  | exit (code : Nat)
  /-- The operator waits for its lease. -/
  | waiting
  /-- The operator runs its controllers, with what was reported before. -/
  | running (o : Operator) (status : OperatorStatus)

/-- What a run leaves. -/
structure Result where
  files : Files.Tree
  /-- What was asked to be told. -/
  notice : Option String := none
  /-- What was logged, shown or not. -/
  entries : List Log.Entry := []
  /-- What is said about a failure. -/
  complaint : Option String := none
  ending : Ending

end GateOperator.Program
