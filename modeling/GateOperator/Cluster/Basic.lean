import GateOperator.Object.ClusterOperator
import GateOperator.Object.ClusterVersion
import GateOperator.Object.FeatureGate
import GateOperator.Object.Infrastructure
import GateOperator.Object.NodeConfig

/-!
The objects of a cluster that the operator works with, and the writes that it makes to them. A write
changes one field of one object and nothing else; a write to an object that is not there changes nothing.
-/

namespace GateOperator

/-- The place of an object: its kind and its name. -/
structure Place (Spec Status : Type) where
  kind : Kind Spec Status
  name : String
  /-- What the object is called when it cannot be read. -/
  title : String := kind.name

namespace Place

/-- The place of the feature gate object. -/
def featureGate : Place FeatureGateSpec FeatureGateStatus := { kind := FeatureGate.kind, name := "cluster" }

/-- The place of the cluster version object. -/
def clusterVersion : Place ClusterVersionSpec ClusterVersionStatus :=
  { kind := ClusterVersion.kind, name := "version" }

def nodeConfig : Place NodeConfigSpec Empty :=
  { kind := NodeConfig.kind, name := "cluster", title := "NodesConfig" }

/-- The place of the infrastructure object. -/
def infrastructure : Place EmptySpec InfrastructureStatus := { kind := Infrastructure.kind, name := "cluster" }

/-- The place of the cluster operator object. -/
def clusterOperator : Place EmptySpec ClusterOperatorStatus :=
  { kind := ClusterOperator.kind, name := "config-operator" }

variable {Spec Status : Type}

/-- The place within the group of all kinds. -/
def key (p : Place Spec Status) : String := p.kind.plural ++ "/" ++ p.name

/-- What is said when the object cannot be read. -/
def unreadable (p : Place Spec Status) : String := "unable to get " ++ p.title

end Place

/-- The objects that the operator works with; any of them may be missing. -/
structure Cluster where
  featureGate : Option FeatureGate := none
  clusterVersion : Option ClusterVersion := none
  nodeConfig : Option NodeConfig := none
  infrastructure : Option Infrastructure := none
  clusterOperator : Option ClusterOperator := none

/-- A write to an object of the cluster. -/
inductive Write where
  /-- Replaces the status of the feature gate object that was read with these metadata, on the condition
      that it still has their resource version. -/
  | featureGateStatus (target : Metadata) (status : FeatureGateStatus)
  /-- Sets the feature set in the specification of the feature gate object. -/
  | featureSet (featureSet manager : String)
  /-- Replaces the status of the cluster operator object. -/
  | clusterOperatorStatus (status : ClusterOperatorStatus)

/-- What is said when a write fails. -/
def Write.failure : Write → String
  | featureGateStatus _ _ => "unable to update FeatureGate status"
  | featureSet _ _ => "unable to apply FeatureGate featureSet"
  | clusterOperatorStatus _ => "unable to update ClusterOperator status"

namespace Resource

variable {Spec Status : Type}

/-- The object with another status. -/
def withStatus (r : Resource Spec Status) (status : Status) : Resource Spec Status := { r with status := some status }

end Resource

/-- The object with another feature set. -/
def FeatureGate.withFeatureSet (fg : FeatureGate) (featureSet : String) : FeatureGate :=
  { fg with spec := { fg.spec with featureSet } }

namespace Cluster

/-- The cluster after a write. -/
def apply (c : Cluster) : Write → Cluster
  | .featureGateStatus _ status => { c with featureGate := c.featureGate.map (·.withStatus status) }
  | .featureSet featureSet _ => { c with featureGate := c.featureGate.map fun fg => FeatureGate.withFeatureSet fg featureSet }
  | .clusterOperatorStatus status => { c with clusterOperator := c.clusterOperator.map (·.withStatus status) }

end Cluster

end GateOperator
