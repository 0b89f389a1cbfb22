import GateOperator.Object.ClusterOperator
import GateOperator.Object.ClusterVersion
import GateOperator.Object.FeatureGate
import GateOperator.Object.Infrastructure
import GateOperator.Object.NodeConfig
import GateOperator.Proofs.Data.Fields

/-!
What is written of objects and of their parts is read back as it was, in either notation. Fields that are
left out because there is nothing to write are read as nothing.
-/

namespace GateOperator

open Fields Value

variable {dialect : Dialect}

theorem Requirement.read?_write (r : Requirement) : read? dialect r.write = some r := rfl

theorem Gate.read?_write (g : Gate) : read? dialect g.write = some g := by
  obtain ⟨name, requirements⟩ := g
  cases requirements with
  | nil => rfl
  | cons r requirements =>
    show (listOf? dialect (Requirement.read? dialect) (.list ((r :: requirements).map Requirement.write))).bind
      (fun requirements => some (Gate.mk name requirements)) = _
    rw [listOf?_map Requirement.read?_write]
    rfl

theorem Snapshot.read?_write (s : Snapshot) : read? dialect s.write = some s := by
  show (listOf? dialect (Gate.read? dialect) (.list (s.enabled.map Gate.write))).bind (fun enabled =>
    (listOf? dialect (Gate.read? dialect) (.list (s.disabled.map Gate.write))).bind fun disabled =>
      some (Snapshot.mk s.version enabled disabled)) = _
  rw [listOf?_map Gate.read?_write, listOf?_map Gate.read?_write]
  rfl

theorem CustomSelection.read?_write (c : CustomSelection) : read? dialect c.write = some c := by
  have htext (name : String) : text? (.text name) = some name := rfl
  show (listOf? dialect text? (.list (c.enabled.map .text))).bind (fun enabled =>
    (listOf? dialect text? (.list (c.disabled.map .text))).bind fun disabled =>
      some (CustomSelection.mk enabled disabled)) = _
  rw [listOf?_map htext, listOf?_map htext]
  rfl

theorem Condition.read?_write (c : Condition) : read? dialect c.write = some c := by
  obtain ⟨type, status, reason, message, lastTransitionTime⟩ := c
  cases reason <;> cases message <;> cases lastTransitionTime <;> rfl

theorem UpdateRecord.read?_write (u : UpdateRecord) : read? dialect u.write = some u := by
  obtain ⟨version, state, image⟩ := u
  cases state <;> cases image <;> rfl

theorem OperandVersion.read?_write (v : OperandVersion) : read? dialect v.write = some v := rfl

/-! ### Specifications -/

theorem FeatureGateSpec.read?_write (s : FeatureGateSpec) : read? dialect s.write = some s := by
  obtain ⟨featureSet, custom⟩ := s
  cases custom with
  | none => rfl
  | some c =>
    show ((CustomSelection.read? dialect c.write).map some).bind
      (fun custom => some (FeatureGateSpec.mk featureSet custom)) = _
    rw [CustomSelection.read?_write]
    rfl

theorem ClusterVersionSpec.read?_write (s : ClusterVersionSpec) : read? dialect s.write = some s := by
  obtain ⟨clusterID⟩ := s
  cases clusterID <;> rfl

theorem NodeConfigSpec.read?_write (s : NodeConfigSpec) : read? dialect s.write = some s := by
  obtain ⟨version⟩ := s
  by_cases hempty : version = ""
  · subst hempty
    rfl
  · rw [write, if_neg hempty]
    rfl

/-! ### Statuses -/

theorem FeatureGateStatus.read?_write (s : FeatureGateStatus) : read? dialect s.write = some s := by
  obtain ⟨snapshots, conditions⟩ := s
  have hsnapshots : listOf? dialect (Snapshot.read? dialect) (.list (snapshots.map Snapshot.write)) =
      some snapshots := listOf?_map Snapshot.read?_write snapshots
  cases conditions with
  | nil =>
    show (listOf? dialect (Snapshot.read? dialect) (.list (snapshots.map Snapshot.write))).bind
      (fun snapshots => some (FeatureGateStatus.mk snapshots [])) = _
    rw [hsnapshots]
    rfl
  | cons c conditions =>
    show (listOf? dialect (Snapshot.read? dialect) (.list (snapshots.map Snapshot.write))).bind (fun snapshots =>
      (listOf? dialect (Condition.read? dialect) (.list ((c :: conditions).map Condition.write))).bind
        fun conditions => some (FeatureGateStatus.mk snapshots conditions)) = _
    rw [hsnapshots, listOf?_map Condition.read?_write]
    rfl

theorem ClusterVersionStatus.read?_write (s : ClusterVersionStatus) : read? dialect s.write = some s := by
  show (listOf? dialect (UpdateRecord.read? dialect) (.list (s.history.map UpdateRecord.write))).bind
    (fun history => some (ClusterVersionStatus.mk history)) = _
  rw [listOf?_map UpdateRecord.read?_write]
  rfl

theorem InfrastructureStatus.read?_write (s : InfrastructureStatus) : read? dialect s.write = some s := by
  obtain ⟨topology⟩ := s
  cases topology <;> rfl

theorem ClusterOperatorStatus.read?_write (s : ClusterOperatorStatus) : read? dialect s.write = some s := by
  show (listOf? dialect (Condition.read? dialect) (.list (s.conditions.map Condition.write))).bind (fun conditions =>
    (listOf? dialect (OperandVersion.read? dialect) (.list (s.versions.map OperandVersion.write))).bind
      fun versions => some (ClusterOperatorStatus.mk conditions versions)) = _
  rw [listOf?_map Condition.read?_write, listOf?_map OperandVersion.read?_write]
  rfl

/-! ### Objects -/

namespace Resource

variable {Spec Status : Type} {kind : Kind Spec Status} {r : Resource Spec Status}

/-- The fields that are read of what is written of an object. -/
theorem read_write (hstatus : ∀ s, r.status = some s → kind.hasStatus = true) :
    Fields.read dialect true (["metadata", "spec"] ++ if kind.hasStatus then ["status"] else []) (write kind r) =
      some ⟨false, [("metadata", r.metadata.write), ("spec", kind.writeSpec r.spec)] ++
        (r.status.map fun s => ("status", kind.writeStatus s)).toList⟩ := by
  obtain ⟨metadata, spec, status⟩ := r
  cases status with
  | none => cases kind.hasStatus <;> rfl
  | some s =>
    rw [hstatus s rfl]
    rfl

/-- An object is read back when its three parts are; what is written of a status must not be null. -/
theorem read?_write (hmetadata : Metadata.read? dialect r.metadata.write = some r.metadata)
    (hspec : kind.readSpec dialect (kind.writeSpec r.spec) = some r.spec)
    (hstatus : ∀ s, kind.hasStatus = true ∧
      nullable (kind.readStatus dialect) (kind.writeStatus s) = some (some s)) :
    read? kind dialect (write kind r) = some r := by
  obtain ⟨metadata, spec, status⟩ := r
  show (Fields.read _ _ _ _).bind _ = _
  rw [read_write fun s _ => (hstatus s).1]
  show (Metadata.read? dialect metadata.write).bind (fun metadata =>
    (kind.readSpec dialect (kind.writeSpec spec)).bind fun spec =>
      (Fields.optional _ "status" (kind.readStatus dialect)).bind fun status =>
        some (Resource.mk metadata spec status)) = _
  rw [hmetadata, hspec]
  cases status with
  | none => rfl
  | some s =>
    show (nullable (kind.readStatus dialect) (kind.writeStatus s)).bind _ = _
    rw [(hstatus s).2]
    rfl

end Resource

end GateOperator
