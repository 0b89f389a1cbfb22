import GateOperator.Proofs.Resolution.Carried

/-!
Which requirements a resolution checks. Some come from another feature set than the selected one, and some belong to
gates that are forced on; but each was found well formed when its feature set was registered. Main statement: every
requirement that is checked names a component and a semantic version, so none keeps its gate off because its own
version cannot be read.
-/

namespace GateOperator

section
variable {c : Catalog} {registrations : List Registration} {featureSet gate : String}
  {custom : Option CustomSelection} {observed : Observations} {s : Selection} {g : Gate} {r r' : Requirement}
  {requirements : List Requirement} {reason : Unmet}

/-! ### The reasons that checks find -/

/-- The version that a requirement names counts against it when its component is observed and the version cannot
    be read. -/
theorem Requirement.unmet?_eq_malformed_iff : r.unmet? gate observed = .ok (some (.malformed r')) ↔
    (∃ text, observed.version? r.component = some text) ∧ (∃ e, Version.parse r.version = .error e) ∧ r' = r := by
  unfold Requirement.unmet?
  split
  · rename_i hobserved
    simp [hobserved]
  · rename_i text hobserved
    split
    · rename_i e hrequired
      simp [hobserved, hrequired, eq_comm]
    · rename_i required hrequired
      split
      · simp [hrequired]
      · split <;> simp [hrequired]

example : (⟨"Kubelet", "1.30"⟩ : Requirement).unmet? "A" (.ofList [("Kubelet", "1.30.0")]) =
    .ok (some (.malformed ⟨"Kubelet", "1.30"⟩)) := by decide

theorem Requirement.WellFormed.unmet?_ne_malformed (wf : r.WellFormed) :
    r.unmet? gate observed ≠ .ok (some (.malformed r')) := fun h => by
  obtain ⟨-, ⟨e, he⟩, -⟩ := Requirement.unmet?_eq_malformed_iff.mp h
  obtain ⟨required, hrequired⟩ := wf.version
  cases he.symm.trans hrequired

/-- What keeps a gate off is found by the check of one of its requirements. -/
theorem exists_unmet?_of_firstUnmet? (h : firstUnmet? gate observed requirements = .ok (some reason)) :
    ∃ r ∈ requirements, r.unmet? gate observed = .ok (some reason) := by
  induction requirements with
  | nil => cases h
  | cons r requirements ih =>
    rw [firstUnmet?] at h
    split at h
    · cases h
    · rename_i found
      cases h
      exact ⟨r, List.mem_cons_self, found⟩
    · obtain ⟨r', hr', found⟩ := ih h
      exact ⟨r', List.mem_cons_of_mem r hr', found⟩

theorem Selection.unmet?_of_verdict_eq_kept (h : s.verdict observed g = .ok (.kept reason)) :
    g.unmet? observed = .ok (some reason) := by
  unfold verdict at h
  split at h
  · split at h
    · cases h
    · cases h
    · rename_i found
      cases h
      exact found
  · cases h

/-! ### The requirements of the gates -/

theorem Selection.wellFormed_of_mem_gates (wf : c.WellFormed) (hs : Selection.of c featureSet custom = .ok s)
    (hg : g ∈ s.gates) : ∀ r ∈ g.requirements, r.WellFormed := by
  have carries : c.Carries (effectiveFeatureSet featureSet) g.name (s.requirements g.name) :=
    (carries_iff wf hs).mpr rfl
  rw [eq_gate_of_mem hg]
  exact carries.wellFormed wf

/-- The gates that a resolution sorts, checked or not and whether or not it comes to an end, have well-formed
    requirements only. So in no check does the version that a requirement names fail to be read, and no gate is kept
    off for that. -/
theorem resolve_checks_wellFormed (built : Catalog.build registrations = .ok c) :
    (∀ s, Selection.of c featureSet custom = .ok s → ∀ g ∈ s.gates, ∀ r ∈ g.requirements,
        r.component ≠ "" ∧ (∃ version, Version.parse r.version = .ok version) ∧
          ∀ r', r.unmet? g.name observed ≠ .ok (some (.malformed r'))) ∧
      ∀ vs, verdicts c featureSet custom observed = .ok vs → ∀ g reason, (g, .kept reason) ∈ vs →
        ∀ r, reason ≠ .malformed r := by
  have wf := Catalog.wellFormed_of_build built
  refine ⟨fun s hs g hg r hr => ?_, fun vs hvs g reason hkept r malformed => ?_⟩
  · have sound : r.WellFormed := Selection.wellFormed_of_mem_gates wf hs hg r hr
    exact ⟨sound.component, sound.version, fun r' => sound.unmet?_ne_malformed⟩
  · obtain ⟨s, hs, hvs⟩ := Except.bind_eq_ok_iff.mp hvs
    obtain ⟨hgates, hverdicts⟩ := Selection.verdicts_eq_ok_iff.mp hvs
    have hg : g ∈ s.gates := hgates ▸ List.mem_map_of_mem hkept
    obtain ⟨r', hr', found⟩ :=
      exists_unmet?_of_firstUnmet? (Selection.unmet?_of_verdict_eq_kept (hverdicts _ hkept))
    subst malformed
    exact (Selection.wellFormed_of_mem_gates wf hs hg r' hr').unmet?_ne_malformed found

/-- Under the default set `A` is checked for what another set requires of it, up to the component that is not
    observed. -/
theorem resolve_checks_wellFormed_lent :
    ∃ c s vs, Catalog.build lending = .ok c ∧ Selection.of c "" none = .ok s ∧
      verdicts c "" none (.ofList [("Kubelet", "1.30.0")]) = .ok vs ∧
      ⟨"A", [⟨"Kubelet", "1.30.0"⟩, ⟨"CRI", "1.0.0"⟩]⟩ ∈ s.gates ∧
      (⟨"A", [⟨"Kubelet", "1.30.0"⟩, ⟨"CRI", "1.0.0"⟩]⟩, .kept (.notObserved "CRI")) ∈ vs ∧
      (∃ version, Version.parse "1.0.0" = .ok version) ∧ ∀ r, Unmet.notObserved "CRI" ≠ .malformed r := by
  have h : ∃ c s vs, Catalog.build lending = .ok c ∧ Selection.of c "" none = .ok s ∧
      verdicts c "" none (.ofList [("Kubelet", "1.30.0")]) = .ok vs ∧
      ⟨"A", [⟨"Kubelet", "1.30.0"⟩, ⟨"CRI", "1.0.0"⟩]⟩ ∈ s.gates ∧
      (⟨"A", [⟨"Kubelet", "1.30.0"⟩, ⟨"CRI", "1.0.0"⟩]⟩, .kept (.notObserved "CRI")) ∈ vs :=
    ⟨_, _, _, rfl, rfl, rfl, by decide, by decide⟩
  obtain ⟨c, s, vs, built, hs, hvs, hg, hkept⟩ := h
  obtain ⟨checks, kept⟩ := @resolve_checks_wellFormed c lending "" none (.ofList [("Kubelet", "1.30.0")]) built
  exact ⟨c, s, vs, built, hs, hvs, hg, hkept, (checks s hs _ hg ⟨"CRI", "1.0.0"⟩ (by simp)).2.1, kept vs hvs _ _ hkept⟩

end

end GateOperator
