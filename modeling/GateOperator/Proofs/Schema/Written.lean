import GateOperator.Schema.Definition
import Mathlib.Data.List.Basic

/-!
What a server makes of objects under the schemas that the cluster was told of. It refuses what does not fit
the schema, and drops the fields that the schema does not declare. Main statement: whatever an object holds,
it is written so that neither happens to it. Only the version of the interface, the kind and the metadata
stand outside of the schema; these every server knows.
-/

namespace GateOperator

namespace Schema

/-- The value has the form that the schema gives: texts, lists and records where they are declared, all
    required fields, and null only where it is allowed. -/
inductive Fits : Schema → Value → Prop where
  | null {s : Schema} (h : s.annotations.nullable = true) : Fits s .null
  | text {about : Annotations} {t : String} : Fits (.text about) (.text t)
  | list {about : Annotations} {s : Schema} {items : List Value} (h : ∀ v ∈ items, Fits s v) :
      Fits (.list about s) (.list items)
  | record {about : Annotations} {fields : List (String × Schema)} {required : List String}
      {given : List (String × Value)} (present : ∀ name ∈ required, ∃ v, (name, v) ∈ given)
      (h : ∀ name v s, (name, v) ∈ given → fields.lookup name = some s → Fits s v) :
      Fits (.record about fields required) (.record given)

/-- No record in the value has a field that the schema does not declare for it. -/
inductive Declares : Schema → Value → Prop where
  | null {s : Schema} : Declares s .null
  | text {s : Schema} {t : String} : Declares s (.text t)
  | list {about : Annotations} {s : Schema} {items : List Value} (h : ∀ v ∈ items, Declares s v) :
      Declares (.list about s) (.list items)
  | record {about : Annotations} {fields : List (String × Schema)} {required : List String}
      {given : List (String × Value)} (declared : ∀ name v, (name, v) ∈ given → (fields.lookup name).isSome)
      (h : ∀ name v s, (name, v) ∈ given → fields.lookup name = some s → Declares s v) :
      Declares (.record about fields required) (.record given)

/-- The value fits, and nothing of it would be dropped. -/
structure Describes (s : Schema) (v : Value) : Prop where
  fits : s.Fits v
  declares : s.Declares v

/-- A field that is written, if it is, is declared, and its value is described. -/
def DescribesField (fields : List (String × Schema)) (written : Option (String × Value)) : Prop :=
  ∀ name v, written = some (name, v) → ∃ s, fields.lookup name = some s ∧ s.Describes v

section
variable {about : Annotations} {fields : List (String × Schema)} {required : List String} {name : String}
  {s : Schema} {v : Value} {α : Type} {write : α → Value}

theorem describes_text (t : String) : (text about).Describes (.text t) := ⟨.text, .text⟩

theorem describes_list (h : ∀ x, s.Describes (write x)) (items : List α) :
    (list about s).Describes (.list (items.map write)) := by
  refine ⟨.list fun v hv => ?_, .list fun v hv => ?_⟩
  · obtain ⟨x, -, rfl⟩ := List.mem_map.mp hv
    exact (h x).fits
  · obtain ⟨x, -, rfl⟩ := List.mem_map.mp hv
    exact (h x).declares

theorem describes_ofFields {written : List (Option (String × Value))}
    (present : ∀ name ∈ required, ∃ v, some (name, v) ∈ written) (each : written.Forall (DescribesField fields)) :
    (record about fields required).Describes (.ofFields written) := by
  have given {name : String} {v : Value} : (name, v) ∈ written.filterMap id ↔ some (name, v) ∈ written := by
    rw [List.mem_filterMap]
    exact ⟨fun ⟨_, h, heq⟩ => heq ▸ h, fun h => ⟨_, h, rfl⟩⟩
  have described {name : String} {v : Value} (h : (name, v) ∈ written.filterMap id) :
      ∃ s, fields.lookup name = some s ∧ s.Describes v :=
    List.forall_iff_forall_mem.mp each _ (given.mp h) name v rfl
  refine ⟨.record (fun name hname => ?_) fun name v s hv hs => ?_,
    .record (fun name v hv => ?_) fun name v s hv hs => ?_⟩
  · obtain ⟨v, hv⟩ := present name hname
    exact ⟨v, given.mpr hv⟩
  · obtain ⟨s', hs', h⟩ := described hv
    cases hs'.symm.trans hs
    exact h.fits
  · obtain ⟨s, hs, -⟩ := described hv
    exact Option.isSome_iff_exists.mpr ⟨s, hs⟩
  · obtain ⟨s', hs', h⟩ := described hv
    cases hs'.symm.trans hs
    exact h.declares

theorem describes_nothing : (record about fields []).Describes (.ofFields []) := describes_ofFields nofun trivial

theorem described_always (declared : fields.lookup name = some s) (h : s.Describes v) :
    DescribesField fields (Value.always name v) := by
  rintro _ _ ⟨⟩
  exact ⟨s, declared, h⟩

theorem described_whenSome (declared : fields.lookup name = some s) (h : ∀ x, s.Describes (write x))
    (x : Option α) : DescribesField fields (Value.whenSome name write x) := by
  cases x with
  | none => exact nofun
  | some x => exact described_always declared (h x)

theorem described_whenSomeItems (declared : fields.lookup name = some (list about s))
    (h : ∀ x, s.Describes (write x)) (items : List α) :
    DescribesField fields (Value.whenSomeItems name write items) := by
  unfold Value.whenSomeItems
  split
  · exact nofun
  · exact described_always declared (describes_list h items)

end

/-! ### What objects are made of -/

theorem describes_condition (c : Condition) : condition.Describes c.write :=
  describes_ofFields (by simp [Value.always])
    ⟨described_always rfl (describes_text _), described_always rfl (describes_text _),
      described_whenSome rfl describes_text _, described_whenSome rfl describes_text _,
      described_whenSome rfl describes_text _⟩

theorem describes_requirement (r : Requirement) : requirement.Describes r.write :=
  describes_ofFields (by simp [Value.always])
    ⟨described_always rfl (describes_text _), described_always rfl (describes_text _)⟩

theorem describes_gate (g : Gate) : gate.Describes g.write :=
  describes_ofFields (by simp [Value.always])
    ⟨described_always rfl (describes_text _), described_whenSomeItems rfl describes_requirement _⟩

theorem describes_snapshot (s : Snapshot) : snapshot.Describes s.write :=
  describes_ofFields (by simp [Value.always])
    ⟨described_always rfl (describes_text _), described_always rfl (describes_list describes_gate _),
      described_always rfl (describes_list describes_gate _)⟩

theorem describes_customSelection (c : CustomSelection) : customSelection.Describes c.write :=
  describes_ofFields (by simp)
    ⟨described_always rfl (describes_list describes_text _), described_always rfl (describes_list describes_text _)⟩

theorem describes_updateRecord (u : UpdateRecord) : updateRecord.Describes u.write :=
  describes_ofFields (by simp [Value.always])
    ⟨described_always rfl (describes_text _), described_whenSome rfl describes_text _,
      described_whenSome rfl describes_text _⟩

theorem describes_operandVersion (v : OperandVersion) : operandVersion.Describes v.write :=
  describes_ofFields (by simp [Value.always])
    ⟨described_always rfl (describes_text _), described_always rfl (describes_text _)⟩

/-! ### Specifications and statuses -/

theorem describes_featureGateSpec (s : FeatureGateSpec) : featureGateSpec.Describes s.write :=
  describes_ofFields (by simp)
    ⟨described_always rfl (describes_text _), described_whenSome rfl describes_customSelection _⟩

theorem describes_featureGateStatus (s : FeatureGateStatus) : featureGateStatus.Describes s.write :=
  describes_ofFields (by simp)
    ⟨described_always rfl (describes_list describes_snapshot _), described_whenSomeItems rfl describes_condition _⟩

theorem describes_clusterVersionSpec (s : ClusterVersionSpec) : clusterVersionSpec.Describes s.write :=
  describes_ofFields (by simp) (described_whenSome rfl describes_text _)

theorem describes_clusterVersionStatus (s : ClusterVersionStatus) : clusterVersionStatus.Describes s.write :=
  describes_ofFields (by simp) (described_always rfl (describes_list describes_updateRecord _))

theorem describes_nodeConfigSpec (s : NodeConfigSpec) : nodeConfigSpec.Describes s.write := by
  refine describes_ofFields (by simp) ?_
  show DescribesField _ (if s.minimumKubeletVersion = "" then none else _)
  split
  · exact nofun
  · exact described_always rfl (describes_text _)

theorem describes_infrastructureSpec (s : EmptySpec) : infrastructureSpec.Describes s.write :=
  describes_nothing

theorem describes_infrastructureStatus (s : InfrastructureStatus) : infrastructureStatus.Describes s.write :=
  describes_ofFields (by simp) (described_whenSome rfl describes_text _)

theorem describes_clusterOperatorSpec (s : EmptySpec) : clusterOperatorSpec.Describes s.write :=
  describes_nothing

theorem describes_clusterOperatorStatus (s : ClusterOperatorStatus) : clusterOperatorStatus.Describes s.write :=
  describes_ofFields (by simp)
    ⟨described_always rfl (describes_list describes_condition _),
      described_always rfl (describes_list describes_operandVersion _)⟩

end Schema

namespace Definition

/-- A server that knows the definition takes an object of its kind as it is given: it does not refuse it, and
    drops nothing of its specification and status. -/
structure Admits (d : Definition) (v : Value) : Prop where
  kind : v.field? "kind" = some (.text d.kind)
  fits : d.schema.Fits v
  spec : ∀ part, v.field? "spec" = some part → d.spec.Declares part
  status : ∀ part, v.field? "status" = some part → ∃ s, d.status = some s ∧ s.Declares part

variable {Spec Status : Type} {d : Definition} {kind : Kind Spec Status}

/-- The schema of whole objects has nothing but the specification and the status. -/
theorem part_of_lookup {name : String} {s : Schema}
    (h : (("spec", d.spec) :: (d.status.map fun s => ("status", s)).toList).lookup name = some s) :
    name = "spec" ∧ s = d.spec ∨ name = "status" ∧ d.status = some s := by
  rw [NameMap.lookup_cons_eq] at h
  split at h
  · rename_i hname
    exact .inl ⟨hname, (Option.some.inj h).symm⟩
  · cases hstatus : d.status with
    | none =>
      rw [hstatus] at h
      cases h
    | some status =>
      rw [hstatus] at h
      have h : [("status", status)].lookup name = some s := h
      rw [NameMap.lookup_cons_eq] at h
      split at h
      · rename_i hname
        exact .inr ⟨hname, h⟩
      · cases h

theorem admits_write (hkind : d.kind = kind.name) (hspec : ∀ s, d.spec.Describes (kind.writeSpec s))
    (hstatus : ∀ s, ∃ schema, d.status = some schema ∧ schema.Describes (kind.writeStatus s))
    (r : Resource Spec Status) : d.Admits (Resource.write kind r) := by
  obtain ⟨metadata, spec, status⟩ := r
  refine ⟨?_, .record ?_ ?_, ?_, ?_⟩
  · rw [hkind]
    cases status <;> rfl
  · intro name hname
    cases List.mem_singleton.mp hname
    exact ⟨kind.writeSpec spec, by simp [Value.always]⟩
  · intro name v s hv hs
    rcases part_of_lookup hs with ⟨rfl, rfl⟩ | ⟨rfl, hdeclared⟩
    · have hpart : v = kind.writeSpec spec := by
        cases status <;> simpa [Value.always, Value.whenSome] using hv
      exact hpart ▸ (hspec spec).fits
    · cases status with
      | none => simp [Value.always, Value.whenSome] at hv
      | some status =>
        obtain ⟨schema, hschema, h⟩ := hstatus status
        have hpart : v = kind.writeStatus status := by simpa [Value.always, Value.whenSome] using hv
        cases hschema.symm.trans hdeclared
        exact hpart ▸ h.fits
  · intro part hpart
    have hpart : kind.writeSpec spec = part := by
      cases status <;> exact Option.some.inj hpart
    exact hpart ▸ (hspec spec).declares
  · intro part hpart
    cases status with
    | none => cases hpart
    | some status =>
      obtain ⟨schema, hschema, h⟩ := hstatus status
      cases hpart
      exact ⟨schema, hschema, h.declares⟩

/-- Objects of all kinds are written so that a server takes them as they are given. -/
theorem admits_written :
    (∀ fg : FeatureGate, featureGate.Admits (Resource.write FeatureGate.kind fg)) ∧
      (∀ cv : ClusterVersion, clusterVersion.Admits (Resource.write ClusterVersion.kind cv)) ∧
      (∀ n : NodeConfig, nodeConfig.Admits (Resource.write NodeConfig.kind n)) ∧
      (∀ i : Infrastructure, infrastructure.Admits (Resource.write Infrastructure.kind i)) ∧
      ∀ co : ClusterOperator, clusterOperator.Admits (Resource.write ClusterOperator.kind co) :=
  ⟨admits_write rfl Schema.describes_featureGateSpec fun s => ⟨_, rfl, Schema.describes_featureGateStatus s⟩,
    admits_write rfl Schema.describes_clusterVersionSpec fun s => ⟨_, rfl, Schema.describes_clusterVersionStatus s⟩,
    admits_write rfl Schema.describes_nodeConfigSpec nofun,
    admits_write rfl Schema.describes_infrastructureSpec fun s => ⟨_, rfl, Schema.describes_infrastructureStatus s⟩,
    admits_write rfl Schema.describes_clusterOperatorSpec fun s =>
      ⟨_, rfl, Schema.describes_clusterOperatorStatus s⟩⟩

end Definition

end GateOperator
