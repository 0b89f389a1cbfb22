import GateOperator.Catalog.Basic
import GateOperator.Proofs.Catalog.Policy
import GateOperator.Proofs.Data.Traversal

/-!
Which registrations make a catalog. Main statement: those of well-formed policies under distinct names do,
and the catalog then holds just what was registered.
-/

namespace GateOperator.Catalog

/-- All policies are well formed. -/
def WellFormed (c : Catalog) : Prop := ∀ featureSet policy, c.policy? featureSet = some policy → policy.WellFormed

section
variable {c c' : Catalog} {r : Registration} {registrations : List Registration} {featureSet : String}
  {policy : Policy}

/-- A catalog is what it holds. -/
theorem ext_policy? (h : ∀ featureSet policy, c.policy? featureSet = some policy ↔ c'.policy? featureSet = some policy) :
    c = c' := by
  have same : c.featureSets = c'.featureSets := NameMap.ext_find? fun featureSet => Option.ext (h featureSet)
  cases c
  cases c'
  cases same
  rfl

theorem register_eq_ok_iff :
    c.register r = .ok c' ↔
      r.2.WellFormed ∧ c.policy? r.1 = none ∧ c' = ⟨c.featureSets.insert r.1 r.2⟩ := by
  rw [← Policy.fault?_eq_none_iff, register]
  constructor
  · intro h
    split at h
    · cases h
    · rename_i hfault
      split at h
      · cases h
      · rename_i hfree
        cases h
        exact ⟨hfault, by simpa [NameMap.contains, policy?] using hfree, rfl⟩
  · rintro ⟨hfault, hfree, rfl⟩
    have hcontains : c.featureSets.contains r.1 = false := by
      rw [NameMap.contains, ← policy?, hfree]
      rfl
    simp [hfault, hcontains]

/-- A name is free after a registration if it was free before and is not the registered one. -/
theorem policy?_insert_eq_none_iff :
    policy? ⟨c.featureSets.insert r.1 r.2⟩ featureSet = none ↔ featureSet ≠ r.1 ∧ c.policy? featureSet = none := by
  rw [policy?, NameMap.find?_insert, ← policy?]
  split <;> simp [*]

theorem foldlM_register_eq_ok_iff :
    registrations.foldlM register c = .ok c' ↔
      (∀ r ∈ registrations, r.2.WellFormed ∧ c.policy? r.1 = none) ∧ (registrations.map (·.1)).Nodup ∧
        c' = ⟨c.featureSets.insertAll registrations⟩ := by
  induction registrations generalizing c with
  | nil =>
    rw [List.foldlM_nil]
    constructor
    · intro h
      cases h
      exact ⟨by simp, List.nodup_nil, rfl⟩
    · rintro ⟨-, -, rfl⟩
      rfl
  | cons r registrations ih =>
    rw [List.foldlM_cons, Except.bind_eq_ok_iff, List.map_cons, List.nodup_cons, List.forall_mem_cons]
    simp only [register_eq_ok_iff]
    constructor
    · rintro ⟨_, ⟨hwf, hfree, rfl⟩, h⟩
      obtain ⟨hall, hnodup, rfl⟩ := ih.mp h
      refine ⟨⟨⟨hwf, hfree⟩, fun r' hr' => ?_⟩, ⟨fun hmem => ?_, hnodup⟩, rfl⟩
      · exact ⟨(hall r' hr').1, (policy?_insert_eq_none_iff.mp (hall r' hr').2).2⟩
      · obtain ⟨r', hr', hname⟩ := List.mem_map.mp hmem
        exact (policy?_insert_eq_none_iff.mp (hall r' hr').2).1 hname
    · rintro ⟨⟨⟨hwf, hfree⟩, hall⟩, ⟨hnot, hnodup⟩, rfl⟩
      refine ⟨_, ⟨hwf, hfree, rfl⟩, ih.mpr ⟨fun r' hr' => ?_, hnodup, rfl⟩⟩
      have hne : r'.1 ≠ r.1 := fun h => hnot (List.mem_map.mpr ⟨r', hr', h⟩)
      exact ⟨(hall r' hr').1, policy?_insert_eq_none_iff.mpr ⟨hne, (hall r' hr').2⟩⟩

/-- A catalog is built of well-formed policies under distinct names, and of nothing else. -/
theorem build_eq_ok_iff :
    build registrations = .ok c ↔
      (∀ r ∈ registrations, r.2.WellFormed) ∧ (registrations.map (·.1)).Nodup ∧ c = ⟨.ofList registrations⟩ := by
  have hfree : ∀ name, empty.policy? name = none := fun name => rfl
  rw [build, foldlM_register_eq_ok_iff]
  simp only [hfree, and_true]
  rfl

theorem policy?_eq_some_iff_of_build (built : build registrations = .ok c) :
    c.policy? featureSet = some policy ↔ (featureSet, policy) ∈ registrations := by
  obtain ⟨-, hnodup, rfl⟩ := build_eq_ok_iff.mp built
  exact NameMap.find?_ofList_eq_some_iff hnodup

theorem wellFormed_of_build (built : build registrations = .ok c) : c.WellFormed := fun _ _ h =>
  (build_eq_ok_iff.mp built).1 _ ((policy?_eq_some_iff_of_build built).mp h)

end

end GateOperator.Catalog
