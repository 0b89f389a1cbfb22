import GateOperator.Proofs.Catalog.Build

/-!
What a catalog of well-formed policies knows of a gate. The gate is known when some policy names it, and it
requires what the first policy requires that requires anything of it, where the policy of the preferred
feature set comes before all others.
-/

namespace GateOperator.Catalog

/-- The policies in the order in which their requirements count. -/
def policies (c : Catalog) (preferred : String) : List Policy :=
  (c.policy? preferred).toList ++ c.featureSets.values

section
variable {c c' : Catalog} {preferred other featureSet gate name : String} {policy : Policy} {r : Requirement}

theorem mem_values_iff : policy ∈ c.featureSets.values ↔ ∃ featureSet, c.policy? featureSet = some policy := by
  simp only [NameMap.values, List.mem_map, Prod.exists, exists_eq_right, policy?, NameMap.find?_eq_some_iff]

theorem mem_policies_iff : policy ∈ c.policies preferred ↔ ∃ featureSet, c.policy? featureSet = some policy := by
  rw [policies, List.mem_append, Option.mem_toList, mem_values_iff]
  exact ⟨fun h => h.elim (fun h => ⟨preferred, h⟩) id, .inr⟩

theorem mem_featureSets_names_iff : featureSet ∈ c.featureSets.names ↔ ∃ policy, c.policy? featureSet = some policy := by
  rw [NameMap.mem_names_iff, Option.isSome_iff_exists]
  rfl

/-- The known gates are those that policies name. -/
theorem mem_knownNames_iff :
    name ∈ c.knownNames ↔ ∃ featureSet policy, c.policy? featureSet = some policy ∧ name ∈ policy.gates.map (·.name) := by
  rw [knownNames, Names.mem_ofList, gates, List.map_flatMap, List.mem_flatMap]
  simp only [mem_values_iff]
  constructor
  · rintro ⟨policy, ⟨featureSet, hpolicy⟩, hname⟩
    exact ⟨featureSet, policy, hpolicy, hname⟩
  · rintro ⟨featureSet, policy, hpolicy, hname⟩
    exact ⟨policy, ⟨featureSet, hpolicy⟩, hname⟩

theorem declarations_eq_flatMap : c.declarations preferred = (c.policies preferred).flatMap Policy.gates := by
  rw [declarations, policies, List.flatMap_append, gates]
  cases c.policy? preferred <;> simp

theorem find?_requiring_flatMap {policies : List Policy} (wf : ∀ p ∈ policies, p.WellFormed) :
    ((policies.flatMap Policy.gates).find? fun g => g.name = gate && !g.requirements.isEmpty).map (·.requirements) =
      (policies.map (·.requirements gate)).find? (· ≠ []) := by
  induction policies with
  | nil => rfl
  | cons p policies ih =>
    obtain ⟨hp, hpolicies⟩ := List.forall_mem_cons.mp wf
    rw [List.flatMap_cons, List.find?_append, Option.map_or, hp.find?_requiring, ih hpolicies, List.map_cons,
      List.find?_cons]
    by_cases h : p.requirements gate = [] <;> simp [h]

theorem getD_find?_ne_nil_eq_nil_iff {lists : List (List Requirement)} :
    (lists.find? (· ≠ [])).getD [] = [] ↔ ∀ l ∈ lists, l = [] := by
  induction lists with
  | nil => simp
  | cons l lists ih =>
    rw [List.find?_cons, List.forall_mem_cons, ← ih]
    by_cases h : l = [] <;> simp [h]

/-- A gate requires what the first policy requires that requires anything of it. -/
theorem requirements_eq_first (wf : c.WellFormed) :
    c.requirements preferred gate =
      (((c.policies preferred).map (·.requirements gate)).find? (· ≠ [])).getD [] := by
  have hpolicies : ∀ p ∈ c.policies preferred, p.WellFormed := fun p hp =>
    (mem_policies_iff.mp hp).elim fun featureSet h => wf featureSet p h
  rw [requirements, declarations_eq_flatMap, find?_requiring_flatMap hpolicies]

/-- What the preferred feature set requires counts, if it requires anything. -/
theorem requirements_of_preferred (wf : c.WellFormed) (h : c.policy? preferred = some policy)
    (hne : policy.requirements gate ≠ []) : c.requirements preferred gate = policy.requirements gate := by
  rw [requirements_eq_first wf, policies, h]
  simp [hne]

/-- Whether a gate requires anything does not depend on the preferred feature set. -/
theorem requirements_eq_nil_iff (wf : c.WellFormed) :
    c.requirements preferred gate = [] ↔
      ∀ featureSet policy, c.policy? featureSet = some policy → policy.requirements gate = [] := by
  rw [requirements_eq_first wf, getD_find?_ne_nil_eq_nil_iff, List.forall_mem_map]
  simp only [mem_policies_iff]
  exact ⟨fun h featureSet policy hpolicy => h policy ⟨featureSet, hpolicy⟩,
    fun h policy ⟨featureSet, hpolicy⟩ => h featureSet policy hpolicy⟩

/-- An unknown gate requires nothing. -/
theorem requirements_eq_nil_of_not_mem (wf : c.WellFormed) (h : gate ∉ c.knownNames) :
    c.requirements preferred gate = [] := by
  rw [requirements_eq_nil_iff wf]
  intro featureSet policy hpolicy
  refine Policy.requirements_eq_nil_of_not_mem fun hname => h ?_
  exact mem_knownNames_iff.mpr ⟨featureSet, policy, hpolicy, hname⟩

/-- Whatever a gate requires was found well formed when its policy was registered. -/
theorem wellFormed_of_mem_requirements (wf : c.WellFormed) (hr : r ∈ c.requirements preferred gate) : r.WellFormed := by
  cases hfind : (c.declarations preferred).find? fun g => g.name = gate && !g.requirements.isEmpty with
  | none => simp [requirements, hfind] at hr
  | some g =>
    have hg := List.mem_of_find?_eq_some hfind
    rw [declarations_eq_flatMap] at hg
    obtain ⟨policy, hpolicy, hg⟩ := List.mem_flatMap.mp hg
    obtain ⟨featureSet, hpolicy⟩ := mem_policies_iff.mp hpolicy
    have hr' : r ∈ g.requirements := by simpa [requirements, hfind] using hr
    exact (wf featureSet policy hpolicy).sound g hg r hr'

end

end GateOperator.Catalog
