import GateOperator.Api.Call
import GateOperator.Proofs.Json.MergePatch
import GateOperator.Proofs.Object.Reading
import GateOperator.Proofs.Object.Written

/-!
What the patches of the operator make of the stored objects. A patch keeps whatever it does not name, so a
field that the written status leaves out could survive from the stored one. The status of a feature gate
object leaves out its conditions when there are none; but then there were none before, since a pass carries
the conditions along. All else that a status has is always written.
-/

namespace GateOperator

open Fields Json Value

section Stored

variable {α : Type} {f : Value → Option α} {old : Value} {found : Option α}

/-- The fields that are merged with are those of a stored record; anything else is written over. -/
theorem Json.MergePatch.fieldsOf_of_nullable (h : nullable f old = some found) : fieldsOf old = [] ∨
    ∃ given a, old = .record given ∧ found = some a ∧ f (.record given) = some a := by
  cases old with
  | record given =>
    obtain ⟨a, ha, rfl⟩ := Option.map_eq_some_iff.mp h
    exact .inr ⟨given, a, rfl, rfl, ha⟩
  | _ => exact .inl rfl

end Stored

open MergePatch

/-- The fields of a written status: the snapshots always, and the conditions if there are any. -/
theorem FeatureGateStatus.write_eq_record (s : FeatureGateStatus) : ∃ fields, s.write = .record fields ∧
    (fields.map (·.1)).Nodup ∧ fields.lookup "featureGates" = some (.list (s.snapshots.map Snapshot.write)) ∧
    fields.lookup "conditions" =
      if s.conditions = [] then none else some (.list (s.conditions.map Condition.write)) := by
  obtain ⟨snapshots, conditions⟩ := s
  cases conditions with
  | nil => exact ⟨_, rfl, by show ["featureGates"].Nodup; decide, rfl, rfl⟩
  | cons c conditions => exact ⟨_, rfl, by show ["featureGates", "conditions"].Nodup; decide, rfl, rfl⟩

/-- The patched status of a feature gate object is the written one, if that has the conditions that were
    stored. -/
theorem FeatureGateStatus.read?_patched {old : Value} {found : Option FeatureGateStatus} {s : FeatureGateStatus}
    (h : nullable (read? .json) old = some found) (hconditions : s.conditions = (found.getD .empty).conditions) :
    read? .json (apply old s.write) = some s := by
  -- Conditions that are not written are kept as they are stored, so there must be none of those either.
  have stored : Distinct ["featureGates", "conditions"] (fieldsOf old) ∧ (s.conditions = [] →
      ((fieldsOf old).lookup "conditions").elim (some []) (listOf? .json (Condition.read? .json)) = some []) := by
    rcases fieldsOf_of_nullable h with hold | ⟨given, recorded, rfl, rfl, hread⟩
    · rw [hold]
      exact ⟨distinct_nil, fun _ => rfl⟩
    · obtain ⟨distinct, -, hread⟩ := read?_record_iff.mp hread
      exact ⟨distinct, fun hnone => by rw [fieldsOf, hread]; exact congrArg some (hconditions.symm.trans hnone)⟩
  obtain ⟨fields, hwrite, distinct, hsnapshots, hwritten⟩ := s.write_eq_record
  rw [hwrite]
  refine read?_record_iff.mpr ⟨distinct_applyFields stored.1, ?_, ?_⟩
  · rw [lookup_applyFields distinct, hsnapshots]
    exact listOf?_map Snapshot.read?_write s.snapshots
  · rw [lookup_applyFields distinct, hwritten]
    by_cases hnone : s.conditions = []
    · rw [if_pos hnone, hnone]
      exact stored.2 hnone
    · rw [if_neg hnone]
      exact listOf?_map Condition.read?_write s.conditions

theorem ClusterOperatorStatus.read?_patched {old : Value} {found : Option ClusterOperatorStatus}
    (s : ClusterOperatorStatus) (h : nullable (read? .json) old = some found) :
    read? .json (apply old s.write) = some s := by
  have stored : Distinct ["conditions", "versions"] (fieldsOf old) := by
    rcases fieldsOf_of_nullable h with hold | ⟨given, recorded, rfl, rfl, hread⟩
    · rw [hold]
      exact distinct_nil
    · exact (read?_record_iff.mp hread).1
  have distinct : ["conditions", "versions"].Nodup := by decide
  refine read?_record_iff.mpr ⟨distinct_applyFields stored, ?_, ?_⟩
  · rw [lookup_applyFields]
    · exact listOf?_map Condition.read?_write s.conditions
    · exact distinct
  · rw [lookup_applyFields]
    · exact listOf?_map OperandVersion.read?_write s.versions
    · exact distinct

/-- Metadata are read as before when their resource version is set to what it was. -/
theorem Metadata.read?_patched {old : Value} {m : Metadata} (h : read? .json old = some m) :
    read? .json (apply old (.record [("resourceVersion", (m.resourceVersion.map .text).getD .null)])) = some m := by
  obtain ⟨given, rfl⟩ := exists_record h
  obtain ⟨distinct, -⟩ := read?_record h
  have lookup (name : String) := @lookup_applyFields name given
    [("resourceVersion", (m.resourceVersion.map .text).getD .null)] (by simp)
  refine read?_congr h (distinct_applyFields distinct) ?_ fun name _ other => ?_
  · rw [fieldsOf, lookup]
    cases m.resourceVersion <;> rfl
  · rw [fieldsOf, lookup, NameMap.lookup_cons_eq, if_neg other]
    rfl

theorem FeatureGate.read?_patched {stored : Value} {fg : FeatureGate} {s : FeatureGateStatus}
    (h : Resource.read? kind .json stored = some fg) (hconditions : s.conditions = conditions fg) :
    Resource.read? kind .json (apply stored (Api.Patch.featureGateStatus fg.metadata s)) =
      some (fg.withStatus s) := by
  obtain ⟨given, rfl⟩ := Resource.exists_record h
  obtain ⟨distinct, hmetadata, hspec, hstatus⟩ := (Resource.read?_record_iff rfl).mp h
  obtain ⟨metadata, hfound, hmetadata⟩ := Option.bind_eq_some_iff.mp hmetadata
  have lookup (name : String) := @lookup_applyFields name given
    [("metadata", .record [("resourceVersion", (fg.metadata.resourceVersion.map .text).getD .null)]),
      ("status", s.write)] (by show ["metadata", "status"].Nodup; decide)
  refine (Resource.read?_record_iff rfl).mpr ⟨distinct_applyFields distinct, ?_, ?_, ?_⟩
  · rw [fieldsOf, lookup, hfound]
    exact Metadata.read?_patched hmetadata
  · rw [fieldsOf, lookup]
    exact hspec
  · rw [fieldsOf, lookup]
    exact congrArg (Option.map some) (FeatureGateStatus.read?_patched hstatus hconditions)

theorem ClusterOperator.read?_patched {stored : Value} {co : ClusterOperator} (s : ClusterOperatorStatus)
    (h : Resource.read? kind .json stored = some co) :
    Resource.read? kind .json (apply stored (Api.Patch.clusterOperatorStatus s)) = some (co.withStatus s) := by
  obtain ⟨given, rfl⟩ := Resource.exists_record h
  obtain ⟨distinct, hmetadata, hspec, hstatus⟩ := (Resource.read?_record_iff rfl).mp h
  have lookup (name : String) := @lookup_applyFields name given [("status", s.write)] (by simp)
  refine (Resource.read?_record_iff rfl).mpr ⟨distinct_applyFields distinct, ?_, ?_, ?_⟩
  · rw [fieldsOf, lookup]
    exact hmetadata
  · rw [fieldsOf, lookup]
    exact hspec
  · rw [fieldsOf, lookup]
    exact congrArg (Option.map some) (ClusterOperatorStatus.read?_patched s hstatus)

/-- The merge patch that makes a write; a feature set is applied and not merged. -/
def Write.mergePatch? : Write → Option Value
  | .featureGateStatus target status => some (Api.Patch.featureGateStatus target status)
  | .clusterOperatorStatus status => some (Api.Patch.clusterOperatorStatus status)
  | .featureSet _ _ => none

namespace Api

theorem body_of_patchStatus {plural name : String} {patch : Value} {q : Request}
    (h : patchStatus plural name patch = some q) : q.body = some ⟨.mergePatch, patch⟩ := by
  unfold patchStatus at h
  split at h
  · cases h
  · cases h
    rfl

theorem body_of_requestFor {w : Write} {q : Request} {patch : Value} (h : requestFor w = some q)
    (hpatch : w.mergePatch? = some patch) : q.body = some ⟨.mergePatch, patch⟩ := by
  cases w with
  | featureGateStatus target status =>
    cases hpatch
    exact body_of_patchStatus h
  | clusterOperatorStatus status =>
    cases hpatch
    exact body_of_patchStatus h
  | featureSet => cases hpatch

end Api

end GateOperator
