import GateOperator.Resolution.Selection

/-!
What a feature set selects, said without the selection. The gates to be sorted are the known ones, and for
the custom set also those that are forced. A gate is wanted on when its feature set switches it on; under
the custom set the default one counts, with what is forced on added and what is forced off taken away.
-/

namespace GateOperator

/-- The custom selection forces the gate on. An empty name forces nothing. -/
def ForcedOn (custom : Option CustomSelection) (name : String) : Prop :=
  name ≠ "" ∧ ∃ s, custom = some s ∧ name ∈ s.enabled

/-- The custom selection forces the gate off. An empty name forces nothing. -/
def ForcedOff (custom : Option CustomSelection) (name : String) : Prop :=
  name ≠ "" ∧ ∃ s, custom = some s ∧ name ∈ s.disabled

/-- The feature set is in the catalog and switches the gate on. -/
def Catalog.Enables (c : Catalog) (featureSet name : String) : Prop :=
  ∃ policy, c.policy? featureSet = some policy ∧ name ∈ policy.enabledNames

/-- The gate is wanted on under a feature set. -/
def Wanted (c : Catalog) (featureSet : String) (custom : Option CustomSelection) (name : String) : Prop :=
  if effectiveFeatureSet featureSet = customFeatureSet then
    ForcedOn custom name ∨ c.Enables defaultFeatureSet name ∧ ¬ForcedOff custom name
  else c.Enables (effectiveFeatureSet featureSet) name

namespace Selection

section
variable {s : Selection} {name : String}

@[simp] theorem names_gates : s.gates.map (·.name) = s.names := by
  rw [gates, List.map_map]
  exact List.map_id _

/-- A gate of the selection is determined by its name. -/
theorem eq_gate_of_mem {g : Gate} (hg : g ∈ s.gates) : g = s.gate g.name := by
  obtain ⟨name, -, rfl⟩ := List.mem_map.mp hg
  rfl

theorem name_mem_of_mem {g : Gate} (hg : g ∈ s.gates) : g.name ∈ s.names := by
  rw [← names_gates]
  exact List.mem_map.mpr ⟨g, hg, rfl⟩

end

section
variable {c : Catalog} {featureSet name : String} {custom : Option CustomSelection} {s : Selection}

theorem mem_overrides_enabled :
    name ∈ overrides (custom.getD ⟨[], []⟩).enabled ↔ ForcedOn custom name := by
  cases custom <;> simp [overrides, ForcedOn, and_comm]

theorem mem_overrides_disabled :
    name ∈ overrides (custom.getD ⟨[], []⟩).disabled ↔ ForcedOff custom name := by
  cases custom <;> simp [overrides, ForcedOff, and_comm]

theorem mem_default_enabledNames :
    name ∈ ((c.policy? defaultFeatureSet).getD .empty).enabledNames ↔ c.Enables defaultFeatureSet name := by
  cases h : c.policy? defaultFeatureSet <;> simp [Catalog.Enables, h, Policy.empty, Policy.enabledNames]

/-- The selection of a feature set of the catalog. -/
theorem of_eq_ok_of_ne (hset : effectiveFeatureSet featureSet ≠ customFeatureSet)
    (h : Selection.of c featureSet custom = .ok s) :
    ∃ policy, c.policy? (effectiveFeatureSet featureSet) = some policy ∧ s.names = c.knownNames ∧
      s.wants = (fun name => policy.enabledNames.contains name) ∧
      s.requirements = c.requirements (effectiveFeatureSet featureSet) := by
  rw [Selection.of, if_neg hset, ofFeatureSet] at h
  split at h
  · cases h
  · rename_i policy hpolicy
    cases h
    exact ⟨policy, hpolicy, rfl, rfl, rfl⟩

/-- The selection of the custom set, for which no gate may be forced both on and off. -/
theorem of_eq_ok_of_eq (hset : effectiveFeatureSet featureSet = customFeatureSet)
    (h : Selection.of c featureSet custom = .ok s) :
    s.names = Names.ofList (c.knownNames ++ overrides (custom.getD ⟨[], []⟩).enabled ++
        overrides (custom.getD ⟨[], []⟩).disabled) ∧
      s.wants = (fun name => (overrides (custom.getD ⟨[], []⟩).enabled).contains name ||
        (((c.policy? defaultFeatureSet).getD .empty).enabledNames.contains name &&
          !(overrides (custom.getD ⟨[], []⟩).disabled).contains name)) ∧
      s.requirements = fun name =>
        (((((c.policy? defaultFeatureSet).getD .empty).gates.find? (·.name = name)).map (·.requirements)).getD []) := by
  rw [Selection.of, if_pos hset, ofCustom] at h
  split at h
  · cases h
  · cases h
    exact ⟨rfl, rfl, rfl⟩

theorem ascending_names (h : Selection.of c featureSet custom = .ok s) : Ascending s.names := by
  by_cases hset : effectiveFeatureSet featureSet = customFeatureSet
  · rw [(of_eq_ok_of_eq hset h).1]
    exact Names.ascending_ofList
  · obtain ⟨policy, -, hnames, -⟩ := of_eq_ok_of_ne hset h
    rw [hnames]
    exact Names.ascending_ofList

/-- The gates to be sorted are the known ones, and those that a custom selection forces. -/
theorem mem_names_iff (h : Selection.of c featureSet custom = .ok s) :
    name ∈ s.names ↔ name ∈ c.knownNames ∨
      effectiveFeatureSet featureSet = customFeatureSet ∧ (ForcedOn custom name ∨ ForcedOff custom name) := by
  by_cases hset : effectiveFeatureSet featureSet = customFeatureSet
  · rw [(of_eq_ok_of_eq hset h).1, Names.mem_ofList, List.mem_append, List.mem_append, mem_overrides_enabled,
      mem_overrides_disabled, or_assoc]
    simp only [hset, true_and]
  · obtain ⟨policy, -, hnames, -⟩ := of_eq_ok_of_ne hset h
    simp only [hnames, hset, false_and, or_false]

theorem wants_iff (h : Selection.of c featureSet custom = .ok s) :
    s.wants name = true ↔ Wanted c featureSet custom name := by
  by_cases hset : effectiveFeatureSet featureSet = customFeatureSet
  · rw [(of_eq_ok_of_eq hset h).2.1, Wanted, if_pos hset, ← mem_overrides_enabled, ← mem_overrides_disabled,
      ← mem_default_enabledNames]
    simp
  · obtain ⟨policy, hpolicy, -, hwants, -⟩ := of_eq_ok_of_ne hset h
    rw [hwants, Wanted, if_neg hset, Catalog.Enables]
    simp [hpolicy]

end

end Selection

end GateOperator
