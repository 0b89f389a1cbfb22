import GateOperator.Status.Operator

/-!
The versions that an operator has achieved: what a start takes over of them, and which of them a status
reports.
-/

namespace GateOperator

/-- The version that is reported under a name; of several the last counts. -/
def ClusterOperatorStatus.version? (s : ClusterOperatorStatus) (name : String) : Option String :=
  (s.versions.reverse.find? (·.name = name)).map (·.version)

theorem OperandVersion.lookup_map {versions : List OperandVersion} {name : String} :
    (versions.map fun v => (v.name, v.version)).lookup name = (versions.find? (·.name = name)).map (·.version) := by
  induction versions with
  | nil => rfl
  | cons v versions ih =>
    rw [List.map_cons, NameMap.lookup_cons_eq, ih, List.find?_cons]
    by_cases h : v.name = name
    · simp [h]
    · simp [h, Ne.symm h]

namespace OperatorStatus

section
variable {s : OperatorStatus} {name version running : String} {reported : ClusterOperatorStatus}
  {persisted : Option ClusterOperatorStatus}

theorem find?_insertAll_versions :
    (s.versions.insertAll (reported.versions.map fun (v : OperandVersion) => (v.name, v.version))).find? name =
      (reported.version? name).or (s.version? name) := by
  rw [NameMap.find?_insertAll, ← List.map_reverse, OperandVersion.lookup_map]
  rfl

theorem find?_fillIn {m : NameMap String} :
    (if m.contains featureGates then m else m.insert featureGates "").find? name =
      (m.find? name).or (if name = featureGates then some "" else none) := by
  by_cases hname : name = featureGates
  · subst hname
    cases h : m.find? featureGates <;> simp [NameMap.contains, h]
  · split <;> simp [hname]

/-- A start records the running release as such, takes over what was reported, and leaves the release of the
    written gates empty when it is not known. -/
theorem version?_seed :
    (s.seed persisted running).version? name =
      if name = operator then some running
      else ((persisted.bind (·.version? name)).or (s.version? name)).or
        (if name = featureGates then some "" else none) := by
  cases persisted with
  | none =>
    show (NameMap.insert _ operator running).find? name = _
    rw [NameMap.find?_insert, find?_fillIn]
    rfl
  | some reported =>
    show (NameMap.insert _ operator running).find? name = _
    rw [NameMap.find?_insert, find?_fillIn, find?_insertAll_versions]
    rfl

/-- A status reports exactly the versions achieved. -/
theorem mem_operandVersions_iff : ⟨name, version⟩ ∈ s.operandVersions ↔ s.version? name = some version := by
  rw [version?, NameMap.find?_eq_some_iff, operandVersions, List.mem_map]
  constructor
  · rintro ⟨e, he, h⟩
    cases h
    exact he
  · intro h
    exact ⟨(name, version), h, rfl⟩

end

end OperatorStatus

end GateOperator
