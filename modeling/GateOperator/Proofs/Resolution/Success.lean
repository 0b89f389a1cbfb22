import GateOperator.Proofs.Resolution.Partition

/-!
When a resolution succeeds, and with what it fails. The gates must be selected, and no gate that is wanted on
may require a component whose observed version cannot be read; then the resolution is the partition of the
selection. Otherwise the first such gate gives the error.
-/

namespace GateOperator

namespace Selection

/-- The requirements of every gate that is wanted on can be checked. -/
def Checkable (s : Selection) (observed : Observations) : Prop :=
  ∀ g ∈ s.gates, s.wants g.name = true → ∃ reason, g.unmet? observed = .ok reason

/-- The first gate that is wanted on and whose requirements cannot be checked gives the error. -/
def FailsWith (s : Selection) (observed : Observations) (e : ResolveError) : Prop :=
  ∃ before g after, s.gates = before ++ g :: after ∧
    (∀ g ∈ before, s.wants g.name = true → ∃ reason, g.unmet? observed = .ok reason) ∧
    s.wants g.name = true ∧ g.unmet? observed = .error e

section
variable {s : Selection} {observed : Observations} {g : Gate} {e : ResolveError}

theorem exists_verdict_iff :
    (∃ v, s.verdict observed g = .ok v) ↔ (s.wants g.name = true → ∃ reason, g.unmet? observed = .ok reason) := by
  unfold verdict
  by_cases hw : s.wants g.name = true
  · rw [if_pos hw]
    cases h : g.unmet? observed with
    | error e => simp [hw]
    | ok reason => cases reason <;> simp
  · simp [hw]

theorem verdict_eq_error_iff :
    s.verdict observed g = .error e ↔ s.wants g.name = true ∧ g.unmet? observed = .error e := by
  unfold verdict
  by_cases hw : s.wants g.name = true
  · rw [if_pos hw]
    cases h : g.unmet? observed with
    | error e => simp [hw]
    | ok reason => cases reason <;> simp
  · simp [hw]

theorem exists_verdicts_iff : (∃ vs, s.verdicts observed = .ok vs) ↔ s.Checkable observed := by
  constructor
  · rintro ⟨vs, hvs⟩ g hg
    obtain ⟨hgates, hverdicts⟩ := verdicts_eq_ok_iff.mp hvs
    rw [← hgates] at hg
    obtain ⟨v, hv, rfl⟩ := List.mem_map.mp hg
    exact exists_verdict_iff.mp ⟨v.2, hverdicts v hv⟩
  · intro h
    exact exists_mapM_keyed_eq_ok fun g hg => exists_verdict_iff.mpr (h g hg)

theorem verdicts_eq_error_iff : s.verdicts observed = .error e ↔ s.FailsWith observed e := by
  simp only [verdicts, mapM_keyed_eq_error_iff, exists_verdict_iff, verdict_eq_error_iff, FailsWith]

theorem ascending_enabledNames_partition (h : Ascending s.names) : Ascending (s.partition observed).enabledNames := by
  rw [← names_gates] at h
  exact h.sublist (List.filter_sublist.map _)

theorem ascending_disabledNames_partition (h : Ascending s.names) : Ascending (s.partition observed).disabledNames := by
  rw [← names_gates] at h
  exact h.sublist (List.filter_sublist.map _)

end

end Selection

section
variable {c : Catalog} {featureSet : String} {custom : Option CustomSelection} {observed : Observations}
  {policy : Policy} {p : Partition} {e : ResolveError}

theorem Selection.leastCommon?_overrides_eq_none_iff :
    Names.leastCommon? (overrides (custom.getD ⟨[], []⟩).enabled) (overrides (custom.getD ⟨[], []⟩).disabled) = none ↔
      ∀ name, ForcedOn custom name → ¬ForcedOff custom name := by
  simp only [Names.leastCommon?_eq_none_iff, mem_overrides_enabled, mem_overrides_disabled]

/-- The gates of a custom set are selected when none is forced both on and off. -/
theorem Selection.exists_of_custom (hset : effectiveFeatureSet featureSet = customFeatureSet)
    (h : ∀ name, ForcedOn custom name → ¬ForcedOff custom name) :
    ∃ s, Selection.of c featureSet custom = .ok s := by
  rw [Selection.of, if_pos hset, ofCustom, leastCommon?_overrides_eq_none_iff.mpr h]
  exact ⟨_, rfl⟩

/-- What a feature set selects under its own name. -/
theorem Selection.of_policy (hempty : featureSet ≠ "") (hcustom : featureSet ≠ customFeatureSet)
    (h : c.policy? featureSet = some policy) :
    Selection.of c featureSet custom =
      .ok ⟨c.knownNames, fun name => policy.enabledNames.contains name, c.requirements featureSet⟩ := by
  rw [Selection.of, effectiveFeatureSet, if_neg hempty, if_neg hcustom, ofFeatureSet, h]

theorem Selection.of_missing (hempty : featureSet ≠ "") (hcustom : featureSet ≠ customFeatureSet)
    (h : c.policy? featureSet = none) : Selection.of c featureSet custom = .error (.featureSetNotFound featureSet) := by
  rw [Selection.of, effectiveFeatureSet, if_neg hempty, if_neg hcustom, ofFeatureSet, h]

/-- A resolution succeeds when the gates are selected and can be checked, and then it is their partition. -/
theorem resolve_eq_ok_iff :
    resolve c featureSet custom observed = .ok p ↔
      ∃ s, Selection.of c featureSet custom = .ok s ∧ s.Checkable observed ∧ s.partition observed = p := by
  rw [resolve, Except.map_eq_ok_iff]
  simp only [verdicts, Except.bind_eq_ok_iff]
  constructor
  · rintro ⟨vs, ⟨s, hs, hvs⟩, rfl⟩
    exact ⟨s, hs, Selection.exists_verdicts_iff.mp ⟨vs, hvs⟩, (Selection.ofVerdicts_eq_partition hvs).symm⟩
  · rintro ⟨s, hs, hcheckable, rfl⟩
    obtain ⟨vs, hvs⟩ := Selection.exists_verdicts_iff.mpr hcheckable
    exact ⟨vs, ⟨s, hs, hvs⟩, Selection.ofVerdicts_eq_partition hvs⟩

theorem resolve_eq_error_iff :
    resolve c featureSet custom observed = .error e ↔
      Selection.of c featureSet custom = .error e ∨
        ∃ s, Selection.of c featureSet custom = .ok s ∧ s.FailsWith observed e := by
  simp only [resolve, Except.map_eq_error_iff, verdicts, Except.bind_eq_error_iff, Selection.verdicts_eq_error_iff]

end

end GateOperator
