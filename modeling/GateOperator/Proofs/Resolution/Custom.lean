import GateOperator.Proofs.Catalog.Requirements
import GateOperator.Proofs.Resolution.Success

/-!
The custom set when no gate is forced. It wants the gates that the default set wants, but takes their
requirements from the default set alone, where the default set itself borrows them from other sets. Main
statement: it resolves like the default set, apart from gates that only borrowed requirements keep off.
-/

namespace GateOperator

/-- The custom selection forces no gate: there is none, or its lists are empty or hold empty names only. -/
def Unforced (custom : Option CustomSelection) : Prop :=
  ∀ s, custom = some s → (∀ name ∈ s.enabled, name = "") ∧ ∀ name ∈ s.disabled, name = ""

/-- The default set switches the gate on and requires nothing of it, but by what the first other set with
    requirements of it demands, it has to stay off. -/
def Catalog.HeldByOthers (c : Catalog) (observed : Observations) (name : String) : Prop :=
  ∃ policy, c.policy? defaultFeatureSet = some policy ∧ name ∈ policy.enabledNames ∧
    policy.requirements name = [] ∧ ∃ r ∈ c.requirements defaultFeatureSet name, ¬r.Met observed

/-- The selection of the default set beside that of a custom set that forces nothing. -/
structure Beside (c : Catalog) (default custom : Selection) (policy : Policy) : Prop where
  policy? : c.policy? defaultFeatureSet = some policy
  names : default.names = c.knownNames
  names_eq : custom.names = default.names
  wants : ∀ name, default.wants name = true ↔ name ∈ policy.enabledNames
  wants_iff : ∀ name, custom.wants name = true ↔ default.wants name = true
  borrowed : default.requirements = c.requirements defaultFeatureSet
  own : custom.requirements = policy.requirements

section
variable {c : Catalog} {registrations : List Registration} {custom : Option CustomSelection}
  {observed : Observations} {s s' : Selection} {policy : Policy} {p : Partition} {name : String}

theorem Unforced.not_forcedOn (unforced : Unforced custom) : ¬ForcedOn custom name := by
  rintro ⟨hne, s, hs, hmem⟩
  exact hne ((unforced s hs).1 name hmem)

theorem Unforced.not_forcedOff (unforced : Unforced custom) : ¬ForcedOff custom name := by
  rintro ⟨hne, s, hs, hmem⟩
  exact hne ((unforced s hs).2 name hmem)

theorem Unforced.wanted_iff (unforced : Unforced custom) :
    Wanted c customFeatureSet custom name ↔ c.Enables defaultFeatureSet name := by
  rw [Wanted, if_pos (by decide)]
  simp [unforced.not_forcedOn, unforced.not_forcedOff]

theorem beside_of_unforced (unforced : Unforced custom) (hs : Selection.of c defaultFeatureSet none = .ok s)
    (hs' : Selection.of c customFeatureSet custom = .ok s') : ∃ policy, Beside c s s' policy := by
  obtain ⟨policy, hpolicy, hnames, hwants, hrequirements⟩ := Selection.of_eq_ok_of_ne (by decide) hs
  have hown := (Selection.of_eq_ok_of_eq (by decide) hs').2.2
  refine ⟨policy, hpolicy, hnames, ?_, ?_, ?_, hrequirements, ?_⟩
  · refine Names.eq_of_mem_iff (Selection.ascending_names hs') (Selection.ascending_names hs) fun name => ?_
    rw [Selection.mem_names_iff hs', hnames]
    simp [unforced.not_forcedOn, unforced.not_forcedOff]
  · intro name
    simp [hwants]
  · intro name
    rw [Selection.wants_iff hs', unforced.wanted_iff, Selection.wants_iff hs, Wanted, if_neg (by decide)]
    rfl
  · rw [hown, show c.policy? defaultFeatureSet = some policy from hpolicy]
    rfl

/-- Where the default set requires something of a gate itself, both selections carry that. -/
theorem Beside.gate_eq (beside : Beside c s s' policy) (wf : c.WellFormed) (hne : policy.requirements name ≠ []) :
    s'.gate name = s.gate name := by
  rw [Selection.gate, Selection.gate, beside.own, beside.borrowed,
    Catalog.requirements_of_preferred wf beside.policy? hne]

theorem Beside.requirements_eq_nil (beside : Beside c s s' policy) (h : policy.requirements name = []) :
    (s'.gate name).requirements = [] := by
  rw [Selection.gate, beside.own, h]

/-- The requirements of the custom set can be checked where those of the default set can. -/
theorem Beside.checkable (beside : Beside c s s' policy) (wf : c.WellFormed) (h : s.Checkable observed) :
    s'.Checkable observed := by
  intro g hg hwants
  have hname : g.name ∈ s.names := beside.names_eq ▸ Selection.name_mem_of_mem hg
  have hwants' : s.wants g.name = true := (beside.wants_iff g.name).mp hwants
  rw [Selection.eq_gate_of_mem hg]
  by_cases hown : policy.requirements g.name = []
  · refine ⟨none, Gate.unmet?_eq_none_iff.mpr fun r hr => ?_⟩
    rw [beside.requirements_eq_nil hown] at hr
    cases hr
  · rw [beside.gate_eq wf hown]
    exact h _ (List.mem_map_of_mem hname) hwants'

theorem Beside.turnsOn_iff (beside : Beside c s s' policy) (wf : c.WellFormed) :
    s'.TurnsOn observed (s'.gate name) ↔ s.TurnsOn observed (s.gate name) ∨ c.HeldByOthers observed name := by
  have hwants : s'.wants name = true ↔ s.wants name = true := beside.wants_iff name
  by_cases hown : policy.requirements name = []
  · have hmet : (s'.gate name).Met observed := fun r hr => by
      rw [beside.requirements_eq_nil hown] at hr
      cases hr
    constructor
    · rintro ⟨hw, -⟩
      by_cases h : (s.gate name).Met observed
      · exact .inl ⟨hwants.mp hw, h⟩
      · simp only [Gate.Met, Selection.gate, beside.borrowed, not_forall] at h
        obtain ⟨r, hr, hunmet⟩ := h
        exact .inr ⟨policy, beside.policy?, (beside.wants name).mp (hwants.mp hw), hown, r, hr, hunmet⟩
    · rintro (⟨hw, -⟩ | ⟨policy', hpolicy', henabled, -⟩)
      · exact ⟨hwants.mpr hw, hmet⟩
      · cases beside.policy?.symm.trans hpolicy'
        exact ⟨hwants.mpr ((beside.wants name).mpr henabled), hmet⟩
  · have hheld : ¬c.HeldByOthers observed name := by
      rintro ⟨policy', hpolicy', -, hown', -⟩
      cases beside.policy?.symm.trans hpolicy'
      exact hown hown'
    rw [beside.gate_eq wf hown, or_iff_left hheld, Selection.TurnsOn, Selection.TurnsOn, Selection.gate, hwants]

theorem Beside.off_of_held (beside : Beside c s s' policy) (held : c.HeldByOthers observed name) :
    name ∈ s.names ∧ ¬s.TurnsOn observed (s.gate name) := by
  obtain ⟨policy', hpolicy', henabled, -, r, hr, hunmet⟩ := held
  constructor
  · rw [beside.names, Catalog.mem_knownNames_iff]
    refine ⟨defaultFeatureSet, policy', hpolicy', ?_⟩
    rw [Policy.names_gates]
    exact List.mem_append_left _ henabled
  · rintro ⟨-, hmet⟩
    refine hunmet (hmet r ?_)
    rw [Selection.gate, beside.borrowed]
    exact hr

/-- Where the default set can be resolved, the custom set without overrides can. The gates that are on under
    the default set are on, and those that only requirements of other feature sets keep off there. If there are
    no such gates, both sets have the same gates on and off. -/
theorem resolve_custom_extends_default (built : Catalog.build registrations = .ok c) (unforced : Unforced custom)
    (h : resolve c defaultFeatureSet none observed = .ok p) :
    ∃ q, resolve c customFeatureSet custom observed = .ok q ∧
      (∀ name, name ∈ q.enabledNames ↔
        name ∈ p.enabledNames ∨ name ∈ p.disabledNames ∧ c.HeldByOthers observed name) ∧
      (∀ name, name ∈ q.disabledNames ↔ name ∈ p.disabledNames ∧ ¬c.HeldByOthers observed name) ∧
      ((∀ name, ¬c.HeldByOthers observed name) →
        q.enabledNames = p.enabledNames ∧ q.disabledNames = p.disabledNames) := by
  have wf := Catalog.wellFormed_of_build built
  obtain ⟨s, hs, hcheckable, rfl⟩ := resolve_eq_ok_iff.mp h
  obtain ⟨s', hs'⟩ : ∃ s', Selection.of c customFeatureSet custom = .ok s' :=
    Selection.exists_of_custom (by decide) fun name hon => absurd hon unforced.not_forcedOn
  obtain ⟨policy, beside⟩ := beside_of_unforced unforced hs hs'
  have hon : ∀ name, name ∈ (s'.partition observed).enabledNames ↔
      name ∈ (s.partition observed).enabledNames ∨
        name ∈ (s.partition observed).disabledNames ∧ c.HeldByOthers observed name := by
    intro name
    have hoff : c.HeldByOthers observed name → _ := beside.off_of_held
    rw [Selection.mem_enabledNames_partition, Selection.mem_enabledNames_partition,
      Selection.mem_disabledNames_partition, beside.turnsOn_iff wf, beside.names_eq]
    tauto
  have hoff : ∀ name, name ∈ (s'.partition observed).disabledNames ↔
      name ∈ (s.partition observed).disabledNames ∧ ¬c.HeldByOthers observed name := by
    intro name
    rw [Selection.mem_disabledNames_partition, Selection.mem_disabledNames_partition, beside.turnsOn_iff wf,
      beside.names_eq]
    tauto
  refine ⟨s'.partition observed, resolve_eq_ok_iff.mpr ⟨s', hs', beside.checkable wf hcheckable, rfl⟩, hon, hoff, ?_⟩
  intro none_held
  have hcustom := Selection.ascending_names hs'
  have hdefault := Selection.ascending_names hs
  constructor
  · refine Names.eq_of_mem_iff (Selection.ascending_enabledNames_partition hcustom)
      (Selection.ascending_enabledNames_partition hdefault) fun name => ?_
    rw [hon, or_iff_left fun h => none_held name h.2]
  · refine Names.eq_of_mem_iff (Selection.ascending_disabledNames_partition hcustom)
      (Selection.ascending_disabledNames_partition hdefault) fun name => ?_
    rw [hoff, and_iff_left (none_held name)]

/-- A catalog in which the default set switches `A` on and another set requires something of it. -/
def borrowing : List Registration := [
  ("Default", ⟨[⟨"A", []⟩, ⟨"B", [⟨"Kubelet", "1.29.0"⟩]⟩], [⟨"C", []⟩]⟩),
  ("TechPreviewNoUpgrade", ⟨[⟨"A", [⟨"Kubelet", "1.31.0"⟩]⟩], []⟩)]

theorem resolve_custom_extends_default_borrowing :
    ∃ c p q, Catalog.build borrowing = .ok c ∧ Unforced (some ⟨[""], []⟩) ∧
      resolve c defaultFeatureSet none (.ofList [("Kubelet", "1.30.0")]) = .ok p ∧
      resolve c customFeatureSet (some ⟨[""], []⟩) (.ofList [("Kubelet", "1.30.0")]) = .ok q ∧
      p.enabledNames = ["B"] ∧ p.disabledNames = ["A", "C"] ∧
      (∀ name, name ∈ q.enabledNames ↔ name ∈ p.enabledNames ∨
        name ∈ p.disabledNames ∧ c.HeldByOthers (.ofList [("Kubelet", "1.30.0")]) name) ∧
      ∀ name, name ∈ q.disabledNames ↔
        name ∈ p.disabledNames ∧ ¬c.HeldByOthers (.ofList [("Kubelet", "1.30.0")]) name := by
  have h : ∃ c p, Catalog.build borrowing = .ok c ∧
      resolve c defaultFeatureSet none (.ofList [("Kubelet", "1.30.0")]) = .ok p ∧
      p.enabledNames = ["B"] ∧ p.disabledNames = ["A", "C"] := ⟨_, _, rfl, rfl, rfl, rfl⟩
  have unforced : Unforced (some ⟨[""], []⟩) := by simp [Unforced]
  obtain ⟨c, p, built, hp, hpon, hpoff⟩ := h
  obtain ⟨q, hq, hon, hoff, -⟩ := resolve_custom_extends_default built unforced hp
  exact ⟨c, p, q, built, unforced, hp, hq, hpon, hpoff, hon, hoff⟩

/-- What other feature sets require keeps `A` off under the default set, but not under the custom one. -/
theorem custom_without_overrides_not_default :
    ¬∀ registrations c custom observed p, Catalog.build registrations = .ok c → Unforced custom →
      resolve c defaultFeatureSet none observed = .ok p →
      ∃ q, resolve c customFeatureSet custom observed = .ok q ∧
        q.enabledNames = p.enabledNames ∧ q.disabledNames = p.disabledNames := by
  intro h
  have unforced : Unforced (some ⟨[""], []⟩) := by simp [Unforced]
  obtain ⟨q, hq, hon, -⟩ := h borrowing _ (some ⟨[""], []⟩) (.ofList [("Kubelet", "1.30.0")]) _ rfl unforced rfl
  cases hq
  exact absurd hon (by decide)

end

end GateOperator
