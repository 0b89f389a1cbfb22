import GateOperator.Catalog.Policy
import Mathlib.Data.List.Nodup

/-!
Well-formed policies. The check of a policy finds no fault exactly when the policy names no gate twice and
every requirement in it names a component and a semantic version. What such a policy requires of a gate is
then said by one declaration, wherever that stands.
-/

namespace GateOperator

/-- The requirement names a component and a semantic version. -/
structure Requirement.WellFormed (r : Requirement) : Prop where
  component : r.component ≠ ""
  version : ∃ v, Version.parse r.version = .ok v

namespace Policy

/-- No gate is named twice, and all requirements are well formed. -/
structure WellFormed (p : Policy) : Prop where
  enabled : p.enabledNames.Nodup
  disabled : p.disabledNames.Nodup
  disjoint : ∀ name ∈ p.enabledNames, name ∉ p.disabledNames
  sound : ∀ g ∈ p.gates, ∀ r ∈ g.requirements, r.WellFormed

/-- What the policy requires of a gate; nothing of one that it does not name. -/
def requirements (p : Policy) (gate : String) : List Requirement :=
  ((p.gates.find? (·.name = gate)).map (·.requirements)).getD []

section
variable {p : Policy} {g : Gate} {r : Requirement} {gate : String}

theorem names_gates : p.gates.map (·.name) = p.enabledNames ++ p.disabledNames := by
  rw [gates, List.map_append, enabledNames, disabledNames]

/-! ### The check -/

theorem requirementFault?_eq_none_iff : requirementFault? gate r = none ↔ r.WellFormed := by
  unfold requirementFault?
  constructor
  · intro h
    split at h
    · cases h
    · rename_i hcomponent
      split at h
      · cases h
      · rename_i v hversion
        exact ⟨hcomponent, v, hversion⟩
  · rintro ⟨hcomponent, v, hversion⟩
    simp [hcomponent, hversion]

theorem gateFault?_eq_none_iff : gateFault? g = none ↔ ∀ r ∈ g.requirements, r.WellFormed := by
  simp only [gateFault?, List.findSome?_eq_none_iff, requirementFault?_eq_none_iff]

theorem fault?_eq_none_iff : p.fault? = none ↔ p.WellFormed := by
  simp only [fault?, Option.or_eq_none_iff, Option.map_eq_none_iff, Names.firstRepeated?_eq_none_iff,
    Names.leastCommon?_eq_none_iff, List.findSome?_eq_none_iff, gateFault?_eq_none_iff]
  constructor
  · rintro ⟨henabled, hdisabled, hdisjoint, hrequirements⟩
    exact ⟨henabled, hdisabled, hdisjoint, hrequirements⟩
  · rintro ⟨henabled, hdisabled, hdisjoint, hrequirements⟩
    exact ⟨henabled, hdisabled, hdisjoint, hrequirements⟩

/-! ### Declarations -/

theorem WellFormed.nodup_names (wf : p.WellFormed) : (p.gates.map (·.name)).Nodup := by
  rw [names_gates]
  refine List.nodup_append.mpr ⟨wf.enabled, wf.disabled, fun a ha b hb hab => ?_⟩
  exact wf.disjoint a ha (hab ▸ hb)

/-- A well-formed policy declares a gate once. -/
theorem WellFormed.requirements_of_mem (wf : p.WellFormed) (hg : g ∈ p.gates) :
    p.requirements g.name = g.requirements := by
  cases hfind : p.gates.find? (·.name = g.name) with
  | none => simpa using List.find?_eq_none.mp hfind g hg
  | some g' =>
    have hname : g'.name = g.name := by simpa using List.find?_some hfind
    have hsame : g' = g := List.inj_on_of_nodup_map wf.nodup_names (List.mem_of_find?_eq_some hfind) hg hname
    rw [requirements, hfind, hsame]
    rfl

theorem exists_mem_of_requirements_ne_nil (h : p.requirements gate ≠ []) :
    ∃ g ∈ p.gates, g.name = gate ∧ g.requirements = p.requirements gate := by
  cases hfind : p.gates.find? (·.name = gate) with
  | none => exact absurd (by rw [requirements, hfind]; rfl) h
  | some g =>
    have hname : g.name = gate := by simpa using List.find?_some hfind
    have hrequirements : p.requirements gate = g.requirements := by rw [requirements, hfind]; rfl
    exact ⟨g, List.mem_of_find?_eq_some hfind, hname, hrequirements.symm⟩

theorem requirements_eq_nil_of_not_mem (h : gate ∉ p.gates.map (·.name)) : p.requirements gate = [] := by
  by_contra hne
  obtain ⟨g, hg, hname, -⟩ := exists_mem_of_requirements_ne_nil hne
  exact h (List.mem_map.mpr ⟨g, hg, hname⟩)

/-- Looking for a declaration that requires something finds what the policy requires, if that is not nothing. -/
theorem WellFormed.find?_requiring (wf : p.WellFormed) :
    (p.gates.find? fun g => g.name = gate && !g.requirements.isEmpty).map (·.requirements) =
      if p.requirements gate = [] then none else some (p.requirements gate) := by
  cases hfind : p.gates.find? fun g => g.name = gate && !g.requirements.isEmpty with
  | some g =>
    have hg := List.mem_of_find?_eq_some hfind
    obtain ⟨hname, hne⟩ : g.name = gate ∧ g.requirements ≠ [] := by simpa using List.find?_some hfind
    rw [← hname, wf.requirements_of_mem hg, if_neg hne]
    rfl
  | none =>
    have hnone := List.find?_eq_none.mp hfind
    rw [if_pos]
    · rfl
    · by_contra hne
      obtain ⟨g, hg, hname, hrequirements⟩ := exists_mem_of_requirements_ne_nil hne
      exact hnone g hg (by simpa [hname, hrequirements] using hne)

end

end Policy

end GateOperator
