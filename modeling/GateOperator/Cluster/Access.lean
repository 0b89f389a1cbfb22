import GateOperator.Cluster.Basic

/-!
Access to the cluster with its failures. A read gives the object, or nothing when there is none, or fails;
a write is accepted or fails, and a write that fails changes nothing.
-/

namespace GateOperator

/-- What stands between the operator and an object that it reads. -/
inductive ReadFault where
  /-- The read fails. -/
  | failed (text : String)
  /-- The object is not found, though it may be there. -/
  | notFound
deriving DecidableEq

/-- What stands between the operator and the cluster at one moment: the faults of the reads of each object,
    and the failures of each kind of write. -/
structure Faults where
  featureGate : Option ReadFault := none
  clusterVersion : Option ReadFault := none
  nodeConfig : Option ReadFault := none
  infrastructure : Option ReadFault := none
  clusterOperator : Option ReadFault := none
  featureGateStatus : Option String := none
  featureSet : Option String := none
  clusterOperatorStatus : Option String := none
deriving DecidableEq

/-- Reads an object through a fault. -/
def ReadFault.read {α : Type} (fault : Option ReadFault) (object : Option α) : Except String (Option α) :=
  match fault with
  | none => .ok object
  | some (.failed text) => .error text
  | some .notFound => .ok none

namespace ReadFault

section
variable {α : Type} {fault : Option ReadFault} {object found : Option α} {a : α}

theorem eq_some_of_read (h : read fault object = .ok (some a)) : object = some a := by
  unfold read at h
  split at h
  · exact Except.ok.inj h
  · cases h
  · cases h

theorem eq_of_read (truthful : fault ≠ some .notFound) (h : read fault object = .ok found) : found = object := by
  unfold read at h
  split at h
  · exact (Except.ok.inj h).symm
  · cases h
  · exact absurd rfl truthful

end

end ReadFault

namespace Faults

/-- Every access goes well. -/
def none : Faults := {}

/-- All writes fail, or none does. -/
def withWrites (f : Faults) (failure : Option String) : Faults :=
  { f with featureGateStatus := failure, featureSet := failure, clusterOperatorStatus := failure }

/-- The failure of a write. -/
def ofWrite (f : Faults) : Write → Option String
  | .featureGateStatus _ _ => f.featureGateStatus
  | .featureSet _ _ => f.featureSet
  | .clusterOperatorStatus _ => f.clusterOperatorStatus

end Faults

namespace Cluster

/-- Reads the feature gate object. -/
def readFeatureGate (c : Cluster) (f : Faults) : Except String (Option FeatureGate) :=
  ReadFault.read f.featureGate c.featureGate

/-- Reads the cluster version object. -/
def readClusterVersion (c : Cluster) (f : Faults) : Except String (Option ClusterVersion) :=
  ReadFault.read f.clusterVersion c.clusterVersion

def readNodeConfig (c : Cluster) (f : Faults) : Except String (Option NodeConfig) :=
  ReadFault.read f.nodeConfig c.nodeConfig

/-- Reads the infrastructure object. -/
def readInfrastructure (c : Cluster) (f : Faults) : Except String (Option Infrastructure) :=
  ReadFault.read f.infrastructure c.infrastructure

/-- Reads the cluster operator object. -/
def readClusterOperator (c : Cluster) (f : Faults) : Except String (Option ClusterOperator) :=
  ReadFault.read f.clusterOperator c.clusterOperator

/-- Tries a write. -/
def write (c : Cluster) (f : Faults) (w : Write) : Except String Cluster :=
  match f.ofWrite w with
  | some text => .error text
  | none => .ok (c.apply w)

end Cluster

end GateOperator
