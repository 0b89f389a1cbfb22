import GateOperator.Catalog.Profile
import GateOperator.Pass.Basic

/-!
What the operator asks of the cluster when it starts: the profile of the cluster, which says which manifests
count, and what was reported before the start.
-/

namespace GateOperator

namespace Start

def profile (c : Cluster) (f : Faults) : Except String String :=
  (c.readInfrastructure f).map fun infrastructure => Profile.ofTopology (infrastructure.bind Infrastructure.topology?)

/-- What was reported before the start. -/
def reported (c : Cluster) (f : Faults) : Except String (Option ClusterOperatorStatus) :=
  (c.readClusterOperator f).map fun clusterOperator => clusterOperator.bind (·.status)

/-- Finds the profile of the cluster and takes over what was reported. -/
def run (version : String) (f : Faults) (w : World) : Pass String :=
  match profile w.cluster f, reported w.cluster f with
  | .error text, _ => (.error (.cluster text), w)
  | _, .error text => (.error (.cluster text), w)
  | .ok profile, .ok reported => (.ok profile, { w with status := w.status.seed reported version })

end Start

end GateOperator
