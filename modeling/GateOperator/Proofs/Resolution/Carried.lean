import GateOperator.Proofs.Catalog.Requirements
import GateOperator.Proofs.Resolution.Partition

/-!
Which requirements a gate carries. Under an ordinary feature set they are what that set declares of the gate, if
that is anything, and otherwise what the first feature set in order of name declares that declares anything.
Under the custom set they are what the default set declares, be it nothing. Main statement: every gate of a
resolution carries just these, on whichever side it stands.
-/

namespace GateOperator

namespace Catalog

/-- The feature set is in the catalog and declares the gate, on or off, with these requirements. -/
def Declares (c : Catalog) (featureSet gate : String) (requirements : List Requirement) : Prop :=
  ∃ policy, c.policy? featureSet = some policy ∧ ⟨gate, requirements⟩ ∈ policy.enabled ++ policy.disabled

/-- The feature set does not declare the gate, or declares it without requirements. -/
def Bare (c : Catalog) (featureSet gate : String) : Prop :=
  ∀ requirements, c.Declares featureSet gate requirements → requirements = []

/-- The gate carries these requirements under the feature set. -/
inductive Carries (c : Catalog) (featureSet gate : String) : List Requirement → Prop where
  | own {requirements : List Requirement} (ordinary : featureSet ≠ customFeatureSet)
      (declared : c.Declares featureSet gate requirements) (nonempty : requirements ≠ []) :
      Carries c featureSet gate requirements
  | borrowed {first : String} {requirements : List Requirement} (ordinary : featureSet ≠ customFeatureSet)
      (bare : c.Bare featureSet gate) (declared : c.Declares first gate requirements) (nonempty : requirements ≠ [])
      (earliest : ∀ other, other < first → c.Bare other gate) : Carries c featureSet gate requirements
  | unrequired (ordinary : featureSet ≠ customFeatureSet) (bare : ∀ other, c.Bare other gate) :
      Carries c featureSet gate []
  | default {requirements : List Requirement} (custom : featureSet = customFeatureSet)
      (declared : c.Declares defaultFeatureSet gate requirements) : Carries c featureSet gate requirements
  | undeclared (custom : featureSet = customFeatureSet)
      (absent : ∀ requirements, ¬c.Declares defaultFeatureSet gate requirements) : Carries c featureSet gate []

section
variable {c : Catalog} {featureSet gate : String} {policy : Policy} {requirements : List Requirement}

/-! ### Declarations -/

theorem Declares.requirements_eq (wf : c.WellFormed) (h : c.Declares featureSet gate requirements)
    (hpolicy : c.policy? featureSet = some policy) : policy.requirements gate = requirements := by
  obtain ⟨policy', hpolicy', hgate⟩ := h
  cases hpolicy.symm.trans hpolicy'
  exact (wf featureSet policy hpolicy).requirements_of_mem hgate

theorem declares_of_requirements_ne_nil (hpolicy : c.policy? featureSet = some policy)
    (h : policy.requirements gate ≠ []) : c.Declares featureSet gate (policy.requirements gate) := by
  obtain ⟨⟨_, declared⟩, hg, rfl, hrequirements⟩ := Policy.exists_mem_of_requirements_ne_nil h
  rw [← hrequirements]
  exact ⟨policy, hpolicy, hg⟩

theorem Declares.wellFormed (wf : c.WellFormed) (h : c.Declares featureSet gate requirements) :
    ∀ r ∈ requirements, r.WellFormed := by
  obtain ⟨policy, hpolicy, hgate⟩ := h
  exact (wf featureSet policy hpolicy).sound _ hgate

theorem Carries.wellFormed (wf : c.WellFormed) (h : c.Carries featureSet gate requirements) :
    ∀ r ∈ requirements, r.WellFormed := by
  cases h with
  | own _ declared => exact declared.wellFormed wf
  | borrowed _ _ declared => exact declared.wellFormed wf
  | unrequired => simp
  | default _ declared => exact declared.wellFormed wf
  | undeclared => simp

theorem bare_iff (wf : c.WellFormed) :
    c.Bare featureSet gate ↔ ∀ policy, c.policy? featureSet = some policy → policy.requirements gate = [] := by
  constructor
  · intro bare policy hpolicy
    by_contra h
    exact h (bare _ (declares_of_requirements_ne_nil hpolicy h))
  · intro h requirements declared
    obtain ⟨policy, hpolicy, -⟩ := id declared
    rw [← declared.requirements_eq wf hpolicy]
    exact h policy hpolicy

/-! ### Ordinary feature sets -/

theorem requirements_of_bare (wf : c.WellFormed) (bare : c.Bare featureSet gate) :
    c.requirements featureSet gate =
      ((c.featureSets.values.find? fun p => p.requirements gate ≠ []).map (·.requirements gate)).getD [] := by
  rw [requirements_eq_first wf, policies, List.map_append, List.find?_append]
  have skipped : ((c.policy? featureSet).toList.map (·.requirements gate)).find? (· ≠ []) = none := by
    rw [List.find?_eq_none]
    intro l hl
    obtain ⟨policy, hpolicy, rfl⟩ := List.mem_map.mp hl
    simpa using (bare_iff wf).mp bare policy (Option.mem_toList.mp hpolicy)
  rw [skipped, Option.none_or, List.find?_map]
  rfl

theorem find?_requiring_eq_some_iff (wf : c.WellFormed) :
    (c.featureSets.values.find? fun p => p.requirements gate ≠ []) = some policy ↔
      policy.requirements gate ≠ [] ∧ ∃ first, c.policy? first = some policy ∧
        ∀ other, other < first → c.Bare other gate := by
  rw [NameMap.find?_values_eq_some_iff, decide_eq_true_iff]
  simp only [bare_iff wf, policy?, decide_eq_false_iff_not, not_not]
  refine and_congr_right fun _ => exists_congr fun first => and_congr_right fun _ => forall_congr' fun other => ?_
  exact ⟨fun h hlt p hp => h p hlt hp, fun h p hlt hp => h hlt p hp⟩

theorem carries_iff_of_ne (wf : c.WellFormed) (ordinary : featureSet ≠ customFeatureSet) :
    c.Carries featureSet gate requirements ↔ c.requirements featureSet gate = requirements := by
  constructor
  · intro h
    cases h with
    | own _ declared nonempty =>
      obtain ⟨policy, hpolicy, -⟩ := id declared
      have heq := declared.requirements_eq wf hpolicy
      rw [requirements_of_preferred wf hpolicy (heq ▸ nonempty), heq]
    | borrowed _ bare declared nonempty earliest =>
      obtain ⟨policy, hpolicy, -⟩ := id declared
      have heq := declared.requirements_eq wf hpolicy
      rw [requirements_of_bare wf bare,
        (find?_requiring_eq_some_iff wf).mpr ⟨heq ▸ nonempty, _, hpolicy, earliest⟩]
      exact heq
    | unrequired _ bare =>
      exact (requirements_eq_nil_iff wf).mpr fun other policy hpolicy => (bare_iff wf).mp (bare other) policy hpolicy
    | default custom => exact absurd custom ordinary
    | undeclared custom => exact absurd custom ordinary
  · rintro rfl
    by_cases bare : c.Bare featureSet gate
    · rw [requirements_of_bare wf bare]
      cases hfind : c.featureSets.values.find? fun p => p.requirements gate ≠ [] with
      | none =>
        refine .unrequired ordinary fun other => (bare_iff wf).mpr fun policy hpolicy => ?_
        simpa using List.find?_eq_none.mp hfind policy (mem_values_iff.mpr ⟨other, hpolicy⟩)
      | some policy =>
        obtain ⟨nonempty, first, hpolicy, earliest⟩ := (find?_requiring_eq_some_iff wf).mp hfind
        exact .borrowed ordinary bare (declares_of_requirements_ne_nil hpolicy nonempty) nonempty earliest
    · rw [bare_iff wf] at bare
      push Not at bare
      obtain ⟨policy, hpolicy, nonempty⟩ := bare
      rw [requirements_of_preferred wf hpolicy nonempty]
      exact .own ordinary (declares_of_requirements_ne_nil hpolicy nonempty) nonempty

/-! ### The custom set -/

theorem Bare.default_requirements (wf : c.WellFormed) (bare : c.Bare defaultFeatureSet gate) :
    ((c.policy? defaultFeatureSet).getD .empty).requirements gate = [] := by
  cases hpolicy : c.policy? defaultFeatureSet with
  | none => rfl
  | some policy => exact (bare_iff wf).mp bare policy hpolicy

theorem Declares.default_requirements (wf : c.WellFormed) (declared : c.Declares defaultFeatureSet gate requirements) :
    ((c.policy? defaultFeatureSet).getD .empty).requirements gate = requirements := by
  obtain ⟨policy, hpolicy, -⟩ := id declared
  rw [hpolicy]
  exact declared.requirements_eq wf hpolicy

theorem carries_custom_iff (wf : c.WellFormed) (custom : featureSet = customFeatureSet) :
    c.Carries featureSet gate requirements ↔
      ((c.policy? defaultFeatureSet).getD .empty).requirements gate = requirements := by
  have bare_of_absent (absent : ∀ requirements, ¬c.Declares defaultFeatureSet gate requirements) :
      c.Bare defaultFeatureSet gate := fun requirements declared => absurd declared (absent requirements)
  constructor
  · intro h
    cases h with
    | own ordinary => exact absurd custom ordinary
    | borrowed ordinary => exact absurd custom ordinary
    | unrequired ordinary => exact absurd custom ordinary
    | default _ declared => exact declared.default_requirements wf
    | undeclared _ absent => exact (bare_of_absent absent).default_requirements wf
  · rintro rfl
    by_cases declared : ∃ requirements, c.Declares defaultFeatureSet gate requirements
    · obtain ⟨requirements, declared⟩ := declared
      rw [declared.default_requirements wf]
      exact .default custom declared
    · have absent : ∀ requirements, ¬c.Declares defaultFeatureSet gate requirements := not_exists.mp declared
      rw [(bare_of_absent absent).default_requirements wf]
      exact .undeclared custom absent

end

end Catalog

section
variable {c : Catalog} {registrations : List Registration} {featureSet gate : String}
  {custom : Option CustomSelection} {observed : Observations} {s : Selection} {p : Partition}
  {requirements : List Requirement}

/-- What a gate carries is what the selection says. -/
theorem Selection.carries_iff (wf : c.WellFormed) (hs : Selection.of c featureSet custom = .ok s) :
    c.Carries (effectiveFeatureSet featureSet) gate requirements ↔ s.requirements gate = requirements := by
  by_cases hset : effectiveFeatureSet featureSet = customFeatureSet
  · rw [Catalog.carries_custom_iff wf hset, (of_eq_ok_of_eq hset hs).2.2]
    rfl
  · obtain ⟨-, -, -, -, hrequirements⟩ := of_eq_ok_of_ne hset hs
    rw [Catalog.carries_iff_of_ne wf hset, hrequirements]

/-- Every gate of a resolution has the requirements that it carries under the feature set, and these alone,
    whether it is on, not wanted on, or kept off by them. -/
theorem resolve_carries_declared (built : Catalog.build registrations = .ok c)
    (h : resolve c featureSet custom observed = .ok p) :
    ∀ g ∈ p.enabled ++ p.disabled, ∀ requirements,
      c.Carries (effectiveFeatureSet featureSet) g.name requirements ↔ g.requirements = requirements := by
  obtain ⟨s, hs, rfl⟩ := exists_selection_of_resolve h
  intro g hg requirements
  have hgate : g = s.gate g.name := Selection.eq_gate_of_mem (Selection.mem_gates_of_mem_partition hg)
  rw [Selection.carries_iff (Catalog.wellFormed_of_build built) hs, hgate]
  rfl

/-- The default set switches `A` on and requires nothing of it; two other sets do, in their own order. -/
def lending : List Registration := [
  ("TechPreviewNoUpgrade", ⟨[⟨"A", [⟨"Kubelet", "1.31.0"⟩]⟩], [⟨"C", []⟩]⟩),
  ("Default", ⟨[⟨"A", []⟩, ⟨"B", [⟨"Kubelet", "1.29.0"⟩]⟩], []⟩),
  ("DevPreviewNoUpgrade", ⟨[], [⟨"A", [⟨"Kubelet", "1.30.0"⟩, ⟨"CRI", "1.0.0"⟩]⟩]⟩)]

/-- Under the default set what is borrowed keeps `A` off, in full although the first requirement is met; under the
    custom set `A` is on. -/
theorem resolve_carries_declared_lending :
    ∃ c p q, Catalog.build lending = .ok c ∧
      resolve c "" none (.ofList [("Kubelet", "1.30.0")]) = .ok p ∧
      resolve c customFeatureSet (some ⟨["Z"], []⟩) (.ofList [("Kubelet", "1.30.0")]) = .ok q ∧
      ⟨"A", [⟨"Kubelet", "1.30.0"⟩, ⟨"CRI", "1.0.0"⟩]⟩ ∈ p.disabled ∧ ⟨"A", []⟩ ∈ q.enabled ∧
      (∀ requirements, c.Carries (effectiveFeatureSet "") "A" requirements ↔
        [⟨"Kubelet", "1.30.0"⟩, ⟨"CRI", "1.0.0"⟩] = requirements) ∧
      ∀ requirements, c.Carries (effectiveFeatureSet customFeatureSet) "A" requirements ↔ [] = requirements := by
  have h : ∃ c p q, Catalog.build lending = .ok c ∧
      resolve c "" none (.ofList [("Kubelet", "1.30.0")]) = .ok p ∧
      resolve c customFeatureSet (some ⟨["Z"], []⟩) (.ofList [("Kubelet", "1.30.0")]) = .ok q ∧
      ⟨"A", [⟨"Kubelet", "1.30.0"⟩, ⟨"CRI", "1.0.0"⟩]⟩ ∈ p.disabled ∧ ⟨"A", []⟩ ∈ q.enabled :=
    ⟨_, _, _, rfl, rfl, rfl, by decide, by decide⟩
  obtain ⟨c, p, q, built, hp, hq, hoff, hon⟩ := h
  exact ⟨c, p, q, built, hp, hq, hoff, hon,
    resolve_carries_declared built hp _ (List.mem_append_right _ hoff),
    resolve_carries_declared built hq _ (List.mem_append_left _ hon)⟩

end

end GateOperator
