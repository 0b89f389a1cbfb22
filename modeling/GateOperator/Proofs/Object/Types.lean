import GateOperator.Proofs.Object.Written

/-!
The types of objects and of what they are made of, side by side: how the values of each are read and
written. Of every one of them what is written is what is read back, and so an object that is written and
read any number of times stays what it was when it was first read. Metadata are not ours; for an object it
is enough that its own are read back.
-/

namespace GateOperator

variable {dialect : Dialect}

/-- The values of a type, with the metadata of those that are objects. -/
structure Form where
  Carrier : Type
  read? : Dialect → Value → Option Carrier
  write : Carrier → Value
  metadata? : Carrier → Option Metadata

/-- What objects are made of has no metadata. -/
def Form.part {α : Type} (read? : Dialect → Value → Option α) (write : α → Value) : Form where
  Carrier := α
  read? := read?
  write := write
  metadata? _ := none

/-- The objects of a kind. -/
def Kind.form {Spec Status : Type} (kind : Kind Spec Status) : Form where
  Carrier := Resource Spec Status
  read? := Resource.read? kind
  write := Resource.write kind
  metadata? r := some r.metadata

inductive ObjectType where
  | condition
  | requirement | gate | snapshot
  | customSelection | featureGateSpec | featureGateStatus | featureGate
  | updateRecord | clusterVersionSpec | clusterVersionStatus | clusterVersion
  | nodeConfigSpec | nodeConfig
  | infrastructureSpec | infrastructureStatus | infrastructure
  | operandVersion | clusterOperatorSpec | clusterOperatorStatus | clusterOperator
deriving DecidableEq

namespace ObjectType

def form : ObjectType → Form
  | condition => .part Condition.read? Condition.write
  | requirement => .part Requirement.read? Requirement.write
  | gate => .part Gate.read? Gate.write
  | snapshot => .part Snapshot.read? Snapshot.write
  | customSelection => .part CustomSelection.read? CustomSelection.write
  | featureGateSpec => .part FeatureGateSpec.read? FeatureGateSpec.write
  | featureGateStatus => .part FeatureGateStatus.read? FeatureGateStatus.write
  | featureGate => FeatureGate.kind.form
  | updateRecord => .part UpdateRecord.read? UpdateRecord.write
  | clusterVersionSpec => .part ClusterVersionSpec.read? ClusterVersionSpec.write
  | clusterVersionStatus => .part ClusterVersionStatus.read? ClusterVersionStatus.write
  | clusterVersion => ClusterVersion.kind.form
  | nodeConfigSpec => .part NodeConfigSpec.read? NodeConfigSpec.write
  | nodeConfig => NodeConfig.kind.form
  | infrastructureSpec => .part EmptySpec.read? EmptySpec.write
  | infrastructureStatus => .part InfrastructureStatus.read? InfrastructureStatus.write
  | infrastructure => Infrastructure.kind.form
  | operandVersion => .part OperandVersion.read? OperandVersion.write
  | clusterOperatorSpec => .part EmptySpec.read? EmptySpec.write
  | clusterOperatorStatus => .part ClusterOperatorStatus.read? ClusterOperatorStatus.write
  | clusterOperator => ClusterOperator.kind.form

/-- A value whose metadata, if it has any, are read back as they were written. -/
def MetadataKept (t : ObjectType) (dialect : Dialect) (x : t.form.Carrier) : Prop :=
  ∀ m, t.form.metadata? x = some m → Metadata.read? dialect m.write = some m

theorem read?_write_form (t : ObjectType) (x : t.form.Carrier) (kept : t.MetadataKept dialect x) :
    t.form.read? dialect (t.form.write x) = some x := by
  cases t with
  | condition => exact Condition.read?_write x
  | requirement => exact Requirement.read?_write x
  | gate => exact Gate.read?_write x
  | snapshot => exact Snapshot.read?_write x
  | customSelection => exact CustomSelection.read?_write x
  | featureGateSpec => exact FeatureGateSpec.read?_write x
  | featureGateStatus => exact FeatureGateStatus.read?_write x
  | featureGate =>
    exact Resource.read?_write (kept _ rfl) (FeatureGateSpec.read?_write _)
      fun s => ⟨rfl, congrArg (Option.map some) (FeatureGateStatus.read?_write s)⟩
  | updateRecord => exact UpdateRecord.read?_write x
  | clusterVersionSpec => exact ClusterVersionSpec.read?_write x
  | clusterVersionStatus => exact ClusterVersionStatus.read?_write x
  | clusterVersion =>
    exact Resource.read?_write (kept _ rfl) (ClusterVersionSpec.read?_write _)
      fun s => ⟨rfl, congrArg (Option.map some) (ClusterVersionStatus.read?_write s)⟩
  | nodeConfigSpec => exact NodeConfigSpec.read?_write x
  | nodeConfig => exact Resource.read?_write (kept _ rfl) (NodeConfigSpec.read?_write _) nofun
  | infrastructureSpec => rfl
  | infrastructureStatus => exact InfrastructureStatus.read?_write x
  | infrastructure =>
    exact Resource.read?_write (kept _ rfl) rfl
      fun s => ⟨rfl, congrArg (Option.map some) (InfrastructureStatus.read?_write s)⟩
  | operandVersion => exact OperandVersion.read?_write x
  | clusterOperatorSpec => rfl
  | clusterOperatorStatus => exact ClusterOperatorStatus.read?_write x
  | clusterOperator =>
    exact Resource.read?_write (kept _ rfl) rfl
      fun s => ⟨rfl, congrArg (Option.map some) (ClusterOperatorStatus.read?_write s)⟩

/-- Reading undoes writing, and what is read from any value at all survives being written. -/
theorem written_as_read (t : ObjectType) (dialect : Dialect) :
    (∀ x, t.MetadataKept dialect x → t.form.read? dialect (t.form.write x) = some x) ∧
      ∀ v x, t.form.read? dialect v = some x → t.MetadataKept dialect x →
        t.form.read? dialect (t.form.write x) = some x :=
  ⟨t.read?_write_form, fun _ x _ kept => t.read?_write_form x kept⟩

/-- A feature gate object with metadata, a custom selection, and a status with a gate that has a requirement. -/
theorem written_as_read_cluster :
    let metadata : Metadata := {
      annotations := some (NameMap.ofList [("release", "4.16.0")])
      creationTimestamp := Timestamp.read? "2025-01-02T03:04:05Z"
      generation := some 3
      labels := some ∅
      name := some "cluster"
      resourceVersion := some "41" }
    let status : FeatureGateStatus := ⟨[⟨"4.16.0", [(Gate.named "NodeSwap").requiring "Kubelet" "1.30.0"], []⟩], []⟩
    let fg : FeatureGate := ⟨metadata, ⟨"CustomNoUpgrade", some ⟨["NodeSwap"], []⟩⟩, some status⟩
    featureGate.MetadataKept .json fg ∧
      Resource.read? FeatureGate.kind .json (Resource.write FeatureGate.kind fg) = some fg := by
  intro metadata status fg
  have kept : featureGate.MetadataKept .json fg := fun m hm => by
    cases hm
    rfl
  exact ⟨kept, (written_as_read featureGate .json).1 fg kept⟩

end ObjectType

end GateOperator
