import GateOperator.Object.ClusterOperator
import GateOperator.Object.FeatureGate
import GateOperator.Proofs.Data.Fields

/-!
Objects and statuses read from records: what each of their fields has to be, and that nothing else counts.
-/

namespace GateOperator

open Fields Value

variable {dialect : Dialect} {given : List (String × Value)}

theorem FeatureGateStatus.read?_record_iff {s : FeatureGateStatus} : read? dialect (.record given) = some s ↔
    Distinct ["featureGates", "conditions"] given ∧
      (given.lookup "featureGates").elim (some []) (listOf? dialect (Snapshot.read? dialect)) = some s.snapshots ∧
      (given.lookup "conditions").elim (some []) (listOf? dialect (Condition.read? dialect)) = some s.conditions := by
  refine withDefault_pair_iff.trans (and_congr_right fun _ => ⟨?_, fun h => ⟨_, _, h.1, h.2, rfl⟩⟩)
  rintro ⟨snapshots, conditions, hsnapshots, hconditions, rfl⟩
  exact ⟨hsnapshots, hconditions⟩

theorem ClusterOperatorStatus.read?_record_iff {s : ClusterOperatorStatus} :
    read? dialect (.record given) = some s ↔
      Distinct ["conditions", "versions"] given ∧
        (given.lookup "conditions").elim (some []) (listOf? dialect (Condition.read? dialect)) = some s.conditions ∧
        (given.lookup "versions").elim (some []) (listOf? dialect (OperandVersion.read? dialect)) =
          some s.versions := by
  refine withDefault_pair_iff.trans (and_congr_right fun _ => ⟨?_, fun h => ⟨_, _, h.1, h.2, rfl⟩⟩)
  rintro ⟨conditions, versions, hconditions, hversions, rfl⟩
  exact ⟨hconditions, hversions⟩

namespace Metadata

variable {given' : List (String × Value)} {m : Metadata}

theorem read?_record (h : read? dialect (.record given) = some m) : Distinct declared given ∧
    nullable text? ((given.lookup "resourceVersion").getD .null) = some m.resourceVersion := by
  obtain ⟨fields, hfields, h⟩ := Option.bind_eq_some_iff.mp h
  rw [← optional_record hfields (by decide)]
  -- The resource version is read after twelve other fields and before two.
  iterate 12 obtain ⟨_, -, h⟩ := Option.bind_eq_some_iff.mp h
  obtain ⟨version, hversion, h⟩ := Option.bind_eq_some_iff.mp h
  iterate 2 obtain ⟨_, -, h⟩ := Option.bind_eq_some_iff.mp h
  cases h
  exact ⟨(read_record_iff.mp hfields).1, hversion⟩

theorem exists_record {v : Value} (h : read? .json v = some m) : ∃ given, v = .record given := by
  obtain ⟨fields, hfields, -⟩ := Option.bind_eq_some_iff.mp h
  exact record_of_read hfields

/-- Metadata are determined by what stands under the declared names, null or nothing being the same; the resource
    version may be given as any value that is read alike. -/
theorem read?_congr (h : read? dialect (.record given) = some m) (distinct : Distinct declared given')
    (version : nullable text? ((given'.lookup "resourceVersion").getD .null) = some m.resourceVersion)
    (alike : ∀ name ∈ declared, name ≠ "resourceVersion" →
      (given'.lookup name).getD .null = (given.lookup name).getD .null) :
    read? dialect (.record given') = some m := by
  obtain ⟨fields, hfields⟩ := exists_read_record (read?_record h).1
  obtain ⟨fields', hfields'⟩ := exists_read_record distinct
  have sameVersion : fields'.optional "resourceVersion" text? = fields.optional "resourceVersion" text? := by
    rw [optional_record hfields (by decide), optional_record hfields' (by decide), version, (read?_record h).2]
  have same {α : Type} (name : String) (hname : name ∈ declared) (other : name ≠ "resourceVersion")
      (f : Value → Option α) : fields'.optional name f = fields.optional name f := by
    rw [optional_record hfields hname, optional_record hfields' hname, alike name hname other]
  rw [← h, read?, read?, hfields, hfields', Option.bind_eq_bind, Option.bind_some, Option.bind_some, sameVersion]
  repeat rw [same _ (by decide) (by decide)]

end Metadata

namespace Resource

variable {Spec Status : Type} {kind : Kind Spec Status} {r : Resource Spec Status}

theorem exists_record {v : Value} (h : read? kind .json v = some r) : ∃ given, v = .record given := by
  obtain ⟨fields, hfields, -⟩ := Option.bind_eq_some_iff.mp h
  exact record_of_read hfields

theorem read?_record_iff (hkind : kind.hasStatus = true) : read? kind dialect (.record given) = some r ↔
    Distinct ["metadata", "spec", "status"] given ∧
      (given.lookup "metadata").bind (Metadata.read? dialect) = some r.metadata ∧
      (given.lookup "spec").bind (kind.readSpec dialect) = some r.spec ∧
      nullable (kind.readStatus dialect) ((given.lookup "status").getD .null) = some r.status := by
  rw [read?, hkind]
  constructor
  · intro h
    obtain ⟨fields, hfields, h⟩ := Option.bind_eq_some_iff.mp h
    obtain ⟨metadata, hmetadata, h⟩ := Option.bind_eq_some_iff.mp h
    obtain ⟨spec, hspec, h⟩ := Option.bind_eq_some_iff.mp h
    obtain ⟨status, hstatus, h⟩ := Option.bind_eq_some_iff.mp h
    cases h
    rw [required_record hfields (by simp)] at hmetadata hspec
    rw [optional_record hfields (by simp)] at hstatus
    exact ⟨(read_record_iff.mp hfields).1, hmetadata, hspec, hstatus⟩
  · rintro ⟨distinct, hmetadata, hspec, hstatus⟩
    obtain ⟨fields, hfields⟩ := exists_read_record distinct
    rw [← required_record hfields (by simp)] at hmetadata hspec
    rw [← optional_record hfields (by simp)] at hstatus
    exact Option.bind_eq_some_iff.mpr ⟨fields, hfields, Option.bind_eq_some_iff.mpr ⟨_, hmetadata,
      Option.bind_eq_some_iff.mpr ⟨_, hspec, Option.bind_eq_some_iff.mpr ⟨_, hstatus, rfl⟩⟩⟩⟩

end Resource

end GateOperator
