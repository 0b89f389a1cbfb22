import GateOperator.Proofs.Catalog.Requirements
import Mathlib.Data.List.Find
import Mathlib.Data.List.Perm.Basic

/-!
Registrations in another order. The registrations may change places, and so may the gates in each list of a
policy, but each gate keeps its requirements as they stand. This makes a catalog when the other order does,
and both catalogs know the same gates and require the same of them.
-/

namespace GateOperator

/-- The same gates in each list, in another order. -/
structure Policy.Reordered (p p' : Policy) : Prop where
  enabled : p.enabled.Perm p'.enabled
  disabled : p.disabled.Perm p'.disabled

/-- The same feature set with a reordered policy. -/
def Registration.Reordered (r r' : Registration) : Prop := r.1 = r'.1 ∧ r.2.Reordered r'.2

/-- The same registrations in another order, with reordered policies. -/
def Rearranged (registrations registrations' : List Registration) : Prop :=
  ∃ moved, registrations.Perm moved ∧ List.Forall₂ Registration.Reordered moved registrations'

/-- The same feature sets, with reordered policies. -/
def Catalog.Reordered (c c' : Catalog) : Prop :=
  ∀ featureSet, c.policy? featureSet = none ∧ c'.policy? featureSet = none ∨
    ∃ p p', c.policy? featureSet = some p ∧ c'.policy? featureSet = some p' ∧ p.Reordered p'

/-! ### Policies -/

namespace Policy.Reordered

variable {p p' : Policy} {name gate : String}

theorem symm (h : p.Reordered p') : p'.Reordered p := ⟨h.enabled.symm, h.disabled.symm⟩

theorem gates (h : p.Reordered p') : p.gates.Perm p'.gates := h.enabled.append h.disabled

theorem mem_enabledNames_iff (h : p.Reordered p') : name ∈ p.enabledNames ↔ name ∈ p'.enabledNames :=
  (h.enabled.map _).mem_iff

theorem mem_disabledNames_iff (h : p.Reordered p') : name ∈ p.disabledNames ↔ name ∈ p'.disabledNames :=
  (h.disabled.map _).mem_iff

theorem mem_names_iff (h : p.Reordered p') : name ∈ p.gates.map (·.name) ↔ name ∈ p'.gates.map (·.name) :=
  (h.gates.map _).mem_iff

theorem wellFormed (h : p.Reordered p') (wf : p.WellFormed) : p'.WellFormed where
  enabled := (h.enabled.map _).nodup_iff.mp wf.enabled
  disabled := (h.disabled.map _).nodup_iff.mp wf.disabled
  disjoint name hon hoff := wf.disjoint name (h.mem_enabledNames_iff.mpr hon) (h.mem_disabledNames_iff.mpr hoff)
  sound g hg := wf.sound g (h.gates.mem_iff.mpr hg)

/-- A well-formed policy declares a gate once, so the place of the declaration does not matter. -/
theorem requirements_eq (h : p.Reordered p') (wf : p.WellFormed) : p.requirements gate = p'.requirements gate := by
  have hfind : p.gates.find? (·.name = gate) = p'.gates.find? (·.name = gate) := by
    refine List.find?_eq_find?_of_perm h.gates ?_
    rintro g ⟨hg, hname⟩ g' ⟨hg', hname'⟩
    have hnames : g.name = g'.name := (of_decide_eq_true hname).trans (of_decide_eq_true hname').symm
    exact List.inj_on_of_nodup_map wf.nodup_names hg hg' hnames
  rw [Policy.requirements, Policy.requirements, hfind]

end Policy.Reordered

/-! ### Registrations -/

namespace Rearranged

section
variable {registrations registrations' : List Registration} {r : Registration} {c c' : Catalog}

theorem symm (h : Rearranged registrations registrations') : Rearranged registrations' registrations := by
  obtain ⟨moved, hperm, hall⟩ := h
  obtain ⟨kept, hall', hperm'⟩ := List.perm_comp_forall₂ hperm hall
  exact ⟨kept, hperm'.symm, List.Forall₂.flip (hall'.imp fun r r' h => ⟨h.1.symm, h.2.symm⟩)⟩

theorem names (h : Rearranged registrations registrations') :
    (registrations.map (·.1)).Perm (registrations'.map (·.1)) := by
  obtain ⟨moved, hperm, hall⟩ := h
  have hnames : moved.map (·.1) = registrations'.map (·.1) := by
    rw [← List.forall₂_eq_eq_eq, List.forall₂_map_left_iff, List.forall₂_map_right_iff]
    exact hall.imp fun r r' h => h.1
  exact hnames ▸ hperm.map _

theorem exists_of_mem (h : Rearranged registrations registrations') (hr : r ∈ registrations) :
    ∃ policy, (r.1, policy) ∈ registrations' ∧ r.2.Reordered policy := by
  obtain ⟨moved, hperm, hall⟩ := h
  have hmoved := hperm.mem_iff.mp hr
  clear hperm hr
  induction hall with
  | nil => cases hmoved
  | @cons x x' moved registrations' hx hall ih =>
    rcases List.mem_cons.mp hmoved with rfl | hmoved
    · exact ⟨x'.2, by simp [hx.1], hx.2⟩
    · obtain ⟨policy, hmem, hpolicy⟩ := ih hmoved
      exact ⟨policy, List.mem_cons_of_mem _ hmem, hpolicy⟩

theorem exists_build (h : Rearranged registrations registrations') (built : Catalog.build registrations = .ok c) :
    ∃ c', Catalog.build registrations' = .ok c' := by
  obtain ⟨hwf, hnodup, -⟩ := Catalog.build_eq_ok_iff.mp built
  refine ⟨_, Catalog.build_eq_ok_iff.mpr ⟨fun r' hr' => ?_, h.names.nodup_iff.mp hnodup, rfl⟩⟩
  obtain ⟨policy, hpolicy, hreordered⟩ := h.symm.exists_of_mem hr'
  exact hreordered.symm.wellFormed (hwf _ hpolicy)

theorem catalog (h : Rearranged registrations registrations') (built : Catalog.build registrations = .ok c)
    (built' : Catalog.build registrations' = .ok c') : c.Reordered c' := by
  intro featureSet
  cases hp : c.policy? featureSet with
  | some policy =>
    have hr := (Catalog.policy?_eq_some_iff_of_build built).mp hp
    obtain ⟨policy', hr', hreordered⟩ := h.exists_of_mem hr
    exact .inr ⟨policy, policy', rfl, (Catalog.policy?_eq_some_iff_of_build built').mpr hr', hreordered⟩
  | none =>
    refine .inl ⟨rfl, Option.eq_none_iff_forall_ne_some.mpr fun policy' hp' => ?_⟩
    have hr' := (Catalog.policy?_eq_some_iff_of_build built').mp hp'
    obtain ⟨policy, hr, -⟩ := h.symm.exists_of_mem hr'
    cases hp.symm.trans ((Catalog.policy?_eq_some_iff_of_build built).mpr hr)

end

end Rearranged

/-! ### Catalogs -/

namespace Catalog.Reordered

section
variable {c c' : Catalog} {preferred gate name featureSet : String}

theorem symm (h : c.Reordered c') : c'.Reordered c := fun featureSet =>
  (h featureSet).imp And.symm fun ⟨p, p', hp, hp', hreordered⟩ => ⟨p', p, hp', hp, hreordered.symm⟩

theorem known (h : c.Reordered c') (hname : name ∈ c.knownNames) : name ∈ c'.knownNames := by
  obtain ⟨featureSet, policy, hpolicy, hname⟩ := mem_knownNames_iff.mp hname
  rcases h featureSet with ⟨hnone, -⟩ | ⟨p, p', hp, hp', hreordered⟩
  · cases hpolicy.symm.trans hnone
  · cases hpolicy.symm.trans hp
    exact mem_knownNames_iff.mpr ⟨featureSet, p', hp', hreordered.mem_names_iff.mp hname⟩

theorem knownNames_eq (h : c.Reordered c') : c.knownNames = c'.knownNames :=
  Names.eq_of_mem_iff Names.ascending_ofList Names.ascending_ofList fun _ => ⟨h.known, h.symm.known⟩

theorem map_requirements_eq (h : c.Reordered c') (wf : c.WellFormed) :
    (c.policy? featureSet).map (·.requirements gate) = (c'.policy? featureSet).map (·.requirements gate) := by
  rcases h featureSet with ⟨hnone, hnone'⟩ | ⟨p, p', hp, hp', hreordered⟩
  · rw [hnone, hnone']
  · rw [hp, hp', Option.map_some, Option.map_some, hreordered.requirements_eq (wf featureSet p hp)]

/-- A gate requires the same in both catalogs, whichever feature set is preferred. -/
theorem requirements_eq (h : c.Reordered c') (wf : c.WellFormed) (wf' : c'.WellFormed) :
    c.requirements preferred gate = c'.requirements preferred gate := by
  have hvalues : c.featureSets.values.map (·.requirements gate) = c'.featureSets.values.map (·.requirements gate) := by
    rw [← NameMap.values_mapValues, ← NameMap.values_mapValues]
    refine congrArg NameMap.values (NameMap.ext_find? fun featureSet => ?_)
    rw [NameMap.find?_mapValues, NameMap.find?_mapValues]
    exact h.map_requirements_eq wf
  have hpolicies : (c.policies preferred).map (·.requirements gate) = (c'.policies preferred).map (·.requirements gate) := by
    rw [policies, policies, List.map_append, List.map_append, hvalues, ← Option.toList_map, ← Option.toList_map,
      h.map_requirements_eq wf]
  rw [requirements_eq_first wf, requirements_eq_first wf', hpolicies]

end

end Catalog.Reordered

end GateOperator
