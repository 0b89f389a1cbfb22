import GateOperator.Proofs.Catalog.Requirements
import GateOperator.Proofs.Resolution.Success

/-!
Resolutions taken as policies. What a feature set resolves to has the two lists of a policy, and it names every
known gate. Main statement: when each feature set is registered again with what it resolves to, there is a
catalog, it knows the same gates, and it resolves to what was registered.
-/

namespace GateOperator

/-- The two sides as the lists of a policy. -/
def Partition.policy (p : Partition) : Policy := ⟨p.enabled, p.disabled⟩

/-- Each feature set with what it resolves to. -/
def Catalog.restated (c : Catalog) (observed : Observations) : Except ResolveError (List Registration) :=
  c.featureSets.names.mapM fun featureSet =>
    ((resolve c featureSet none observed).map (·.policy)).map fun policy => (featureSet, policy)

/-- No feature set has the empty name or that of the custom set, so each can be asked for by its name. -/
def Catalog.Plain (c : Catalog) : Prop :=
  ∀ featureSet ∈ c.featureSets.names, featureSet ≠ "" ∧ featureSet ≠ customFeatureSet

/-- A feature set of the catalog, under its own name, with what it selects when it resolves. -/
structure Catalog.Selects (c : Catalog) (observed : Observations) (featureSet : String) (s : Selection) : Prop where
  nonempty : featureSet ≠ ""
  ne_custom : featureSet ≠ customFeatureSet
  selected : Selection.of c featureSet none = .ok s
  checkable : s.Checkable observed

/-- The same feature sets, each with what it resolves to. -/
def Catalog.Restates (c c' : Catalog) (observed : Observations) : Prop :=
  ∀ featureSet, c.policy? featureSet = none ∧ c'.policy? featureSet = none ∨
    ∃ s, c.Selects observed featureSet s ∧ c'.policy? featureSet = some (s.partition observed).policy

/-- The selection that wants what is on already. -/
def Selection.settled (s : Selection) (observed : Observations) : Selection :=
  { s with wants := fun name => (s.partition observed).enabledNames.contains name }

section
variable {c c' : Catalog} {observed : Observations} {featureSet name gate : String} {s : Selection} {g : Gate}
  {registrations registrations' restated : List Registration} {policy : Policy} {p : Partition}

/-! ### Settled selections -/

namespace Selection

theorem turnsOn_settled_iff (hg : g ∈ s.gates) : (s.settled observed).TurnsOn observed g ↔ s.TurnsOn observed g := by
  have hwants : (s.settled observed).wants g.name = true ↔ s.TurnsOn observed g := by
    rw [settled, List.contains_iff_mem, mem_enabledNames_partition, and_iff_right (name_mem_of_mem hg),
      ← eq_gate_of_mem hg]
  rw [TurnsOn, hwants]
  exact and_iff_left_of_imp And.right

theorem checkable_settled : (s.settled observed).Checkable observed := by
  intro g hg hwants
  rw [settled, List.contains_iff_mem, mem_enabledNames_partition] at hwants
  rw [eq_gate_of_mem hg]
  exact ⟨none, Gate.unmet?_eq_none_iff.mpr hwants.2.2⟩

/-- It keeps on what is on, and off what is off. -/
theorem partition_settled : (s.settled observed).partition observed = s.partition observed := by
  unfold partition
  congr 1
  · exact List.filter_congr fun g hg => decide_eq_decide.mpr (turnsOn_settled_iff hg)
  · exact List.filter_congr fun g hg => decide_eq_decide.mpr (not_congr (turnsOn_settled_iff hg))

end Selection

/-! ### The policy of a partition -/

namespace Selection

theorem mem_gates_policy_partition : g ∈ (s.partition observed).policy.gates ↔ g ∈ s.gates := by
  rw [Policy.gates, Partition.policy, partition, List.mem_append, List.mem_filter, List.mem_filter, decide_eq_true_iff,
    decide_eq_true_iff, ← and_or_left, and_iff_left (Decidable.em _)]

theorem mem_names_policy_partition :
    name ∈ (s.partition observed).policy.gates.map (·.name) ↔ name ∈ s.names := by
  rw [← names_gates, List.mem_map, List.mem_map]
  simp only [mem_gates_policy_partition]

theorem wellFormed_policy_partition (hnames : Ascending s.names)
    (sound : ∀ name, ∀ r ∈ s.requirements name, r.WellFormed) : (s.partition observed).policy.WellFormed where
  enabled := Names.nodup_of_ascending (ascending_enabledNames_partition hnames)
  disabled := Names.nodup_of_ascending (ascending_disabledNames_partition hnames)
  disjoint name hon hoff := (mem_disabledNames_partition.mp hoff).2 (mem_enabledNames_partition.mp hon).2
  sound g hg := by
    rw [eq_gate_of_mem (mem_gates_policy_partition.mp hg)]
    exact sound g.name

/-- The policy requires of a gate what the selection does. -/
theorem requirements_policy_partition (wf : (s.partition observed).policy.WellFormed) (hname : name ∈ s.names) :
    (s.partition observed).policy.requirements name = s.requirements name :=
  wf.requirements_of_mem (mem_gates_policy_partition.mpr (List.mem_map_of_mem hname))

end Selection

/-! ### Restated catalogs -/

namespace Catalog

namespace Selects

theorem resolve_eq (h : c.Selects observed featureSet s) :
    resolve c featureSet none observed = .ok (s.partition observed) :=
  resolve_eq_ok_iff.mpr ⟨s, h.selected, h.checkable, rfl⟩

theorem names_requirements (h : c.Selects observed featureSet s) :
    s.names = c.knownNames ∧ s.requirements = c.requirements featureSet := by
  cases hpolicy : c.policy? featureSet with
  | none => cases h.selected.symm.trans (Selection.of_missing h.nonempty h.ne_custom hpolicy)
  | some policy =>
    cases h.selected.symm.trans (Selection.of_policy h.nonempty h.ne_custom hpolicy)
    exact ⟨rfl, rfl⟩

theorem names (h : c.Selects observed featureSet s) : s.names = c.knownNames := h.names_requirements.1

theorem requirements (h : c.Selects observed featureSet s) : s.requirements = c.requirements featureSet :=
  h.names_requirements.2

theorem wellFormed (h : c.Selects observed featureSet s) (wf : c.WellFormed) :
    (s.partition observed).policy.WellFormed := by
  refine Selection.wellFormed_policy_partition (Selection.ascending_names h.selected) fun name r hr => ?_
  rw [h.requirements] at hr
  exact wellFormed_of_mem_requirements wf hr

/-- A feature set that is registered with what it resolves to requires of its own what it had to borrow. -/
theorem requirements_policy (h : c.Selects observed featureSet s) (wf : c.WellFormed) :
    (s.partition observed).policy.requirements gate = c.requirements featureSet gate := by
  by_cases hname : gate ∈ s.names
  · rw [Selection.requirements_policy_partition (h.wellFormed wf) hname, h.requirements]
  · rw [Policy.requirements_eq_nil_of_not_mem (mt Selection.mem_names_policy_partition.mp hname)]
    rw [h.names] at hname
    exact (requirements_eq_nil_of_not_mem wf hname).symm

end Selects

namespace Restates

/-- A policy of the second catalog is what its feature set resolves to in the first one. -/
theorem exists_selects (h : c.Restates c' observed) (hpolicy : c'.policy? featureSet = some policy) :
    ∃ s, c.Selects observed featureSet s ∧ (s.partition observed).policy = policy := by
  rcases h featureSet with ⟨-, hnone⟩ | ⟨s, hs, hp⟩
  · cases hpolicy.symm.trans hnone
  · exact ⟨s, hs, Option.some.inj (hp.symm.trans hpolicy)⟩

theorem knownNames_eq (h : c.Restates c' observed) : c'.knownNames = c.knownNames := by
  refine Names.eq_of_mem_iff Names.ascending_ofList Names.ascending_ofList fun name => ?_
  constructor
  · intro hname
    obtain ⟨featureSet, policy, hpolicy, hname⟩ := mem_knownNames_iff.mp hname
    obtain ⟨s, hs, rfl⟩ := h.exists_selects hpolicy
    rw [← hs.names]
    exact Selection.mem_names_policy_partition.mp hname
  · intro hname
    obtain ⟨featureSet, policy, hpolicy, -⟩ := mem_knownNames_iff.mp hname
    rcases h featureSet with ⟨hnone, -⟩ | ⟨s, hs, hp⟩
    · cases hpolicy.symm.trans hnone
    · rw [← hs.names] at hname
      exact mem_knownNames_iff.mpr ⟨featureSet, _, hp, Selection.mem_names_policy_partition.mpr hname⟩

theorem wellFormed (h : c.Restates c' observed) (wf : c.WellFormed) : c'.WellFormed := by
  intro featureSet policy hpolicy
  obtain ⟨s, hs, rfl⟩ := h.exists_selects hpolicy
  exact hs.wellFormed wf

/-- Either all feature sets require something of a gate or none does, so no set borrows any more. -/
theorem requirements_eq (h : c.Restates c' observed) (wf : c.WellFormed) (hs : c.Selects observed featureSet s)
    (hp : c'.policy? featureSet = some (s.partition observed).policy) :
    c'.requirements featureSet gate = c.requirements featureSet gate := by
  by_cases hnil : c.requirements featureSet gate = []
  · rw [hnil, requirements_eq_nil_iff (h.wellFormed wf)]
    intro other policy hpolicy
    obtain ⟨t, ht, rfl⟩ := h.exists_selects hpolicy
    rw [ht.requirements_policy wf, requirements_eq_nil_iff wf]
    exact (requirements_eq_nil_iff wf).mp hnil
  · have hown : (s.partition observed).policy.requirements gate = c.requirements featureSet gate :=
      hs.requirements_policy wf
    rw [← hown] at hnil
    rw [requirements_of_preferred (h.wellFormed wf) hp hnil, hown]

theorem selection_eq (h : c.Restates c' observed) (wf : c.WellFormed) (hs : c.Selects observed featureSet s)
    (hp : c'.policy? featureSet = some (s.partition observed).policy) :
    Selection.of c' featureSet none = .ok (s.settled observed) := by
  have hrequirements : c'.requirements featureSet = s.requirements := by
    funext gate
    rw [h.requirements_eq wf hs hp, hs.requirements]
  rw [Selection.of_policy hs.nonempty hs.ne_custom hp, h.knownNames_eq, ← hs.names, hrequirements]
  rfl

/-- Only under the custom set may something change: there the requirements of the default set alone count, and
    the default set now has those that it borrowed. -/
theorem resolve_eq (h : c.Restates c' observed) (wf : c.WellFormed) (hcustom : featureSet ≠ customFeatureSet) :
    resolve c' featureSet none observed = resolve c featureSet none observed := by
  -- The empty name stands for the default set.
  wlog hempty : featureSet ≠ "" generalizing featureSet
  · cases not_not.mp hempty
    exact @this defaultFeatureSet (by decide) (by decide)
  rcases h featureSet with ⟨hnone, hnone'⟩ | ⟨s, hs, hp⟩
  · rw [resolve, resolve, verdicts, verdicts, Selection.of_missing hempty hcustom hnone,
      Selection.of_missing hempty hcustom hnone']
  · rw [hs.resolve_eq, resolve_eq_ok_iff]
    exact ⟨s.settled observed, h.selection_eq wf hs hp, Selection.checkable_settled, Selection.partition_settled⟩

end Restates

/-! ### Registering what is resolved -/

theorem mem_restated_iff (h : c.restated observed = .ok restated) :
    (featureSet, policy) ∈ restated ↔ featureSet ∈ c.featureSets.names ∧
      ∃ p, resolve c featureSet none observed = .ok p ∧ p.policy = policy := by
  obtain ⟨hnames, hall⟩ := mapM_keyed_eq_ok_iff.mp h
  constructor
  · intro hr
    refine ⟨?_, Except.map_eq_ok_iff.mp (hall _ hr)⟩
    rw [← hnames]
    exact List.mem_map_of_mem hr
  · rintro ⟨hname, hp⟩
    rw [← hnames] at hname
    obtain ⟨⟨_, policy'⟩, hr, rfl⟩ := List.mem_map.mp hname
    cases (hall _ hr).symm.trans (Except.map_eq_ok_iff.mpr hp)
    exact hr

theorem exists_restated (h : ∀ featureSet ∈ c.featureSets.names, ∃ p, resolve c featureSet none observed = .ok p) :
    ∃ restated, c.restated observed = .ok restated := by
  refine exists_mapM_keyed_eq_ok fun featureSet hset => ?_
  obtain ⟨p, hp⟩ := h featureSet hset
  exact ⟨p.policy, Except.map_eq_ok_iff.mpr ⟨p, hp, rfl⟩⟩

theorem nodup_names_restated (h : c.restated observed = .ok restated) : (restated.map (·.1)).Nodup := by
  rw [(mapM_keyed_eq_ok_iff.mp h).1]
  exact Names.nodup_of_ascending c.featureSets.ascending

theorem exists_selects_of_resolve (plain : c.Plain) (hset : featureSet ∈ c.featureSets.names)
    (h : resolve c featureSet none observed = .ok p) :
    ∃ s, c.Selects observed featureSet s ∧ p = s.partition observed := by
  obtain ⟨hempty, hcustom⟩ := plain featureSet hset
  obtain ⟨s, hs, hcheckable, rfl⟩ := resolve_eq_ok_iff.mp h
  exact ⟨s, ⟨hempty, hcustom, hs, hcheckable⟩, rfl⟩

theorem restates_of_build (plain : c.Plain) (h : c.restated observed = .ok restated)
    (perm : registrations'.Perm restated) (built : build registrations' = .ok c') : c.Restates c' observed := by
  intro featureSet
  have hmem : ∀ policy, c'.policy? featureSet = some policy ↔ featureSet ∈ c.featureSets.names ∧
      ∃ p, resolve c featureSet none observed = .ok p ∧ p.policy = policy := fun policy => by
    rw [policy?_eq_some_iff_of_build built, perm.mem_iff, mem_restated_iff h]
  cases hp : c'.policy? featureSet with
  | some policy =>
    obtain ⟨hset, p, hresolve, rfl⟩ := (hmem policy).mp hp
    obtain ⟨s, hs, rfl⟩ := exists_selects_of_resolve plain hset hresolve
    exact .inr ⟨s, hs, rfl⟩
  | none =>
    refine .inl ⟨Option.eq_none_iff_forall_ne_some.mpr fun policy hpolicy => ?_, rfl⟩
    have hset : featureSet ∈ c.featureSets.names := mem_featureSets_names_iff.mpr ⟨policy, hpolicy⟩
    rw [← (mapM_keyed_eq_ok_iff.mp h).1] at hset
    obtain ⟨r, hr, rfl⟩ := List.mem_map.mp hset
    cases hp.symm.trans ((hmem r.2).mpr ((mem_restated_iff h).mp hr))

theorem exists_build_restated (plain : c.Plain) (wf : c.WellFormed) (h : c.restated observed = .ok restated)
    (perm : registrations'.Perm restated) : ∃ c', build registrations' = .ok c' := by
  refine ⟨_, build_eq_ok_iff.mpr ⟨?_, (perm.map _).nodup_iff.mpr (nodup_names_restated h), rfl⟩⟩
  rintro ⟨featureSet, policy⟩ hr
  obtain ⟨hset, p, hresolve, rfl⟩ := (mem_restated_iff h).mp (perm.mem_iff.mp hr)
  obtain ⟨s, hs, rfl⟩ := exists_selects_of_resolve plain hset hresolve
  exact hs.wellFormed wf

/-- When all feature sets of a catalog resolve, registering what they resolve to, in any order, makes a catalog
    with the same known gates, and every feature set but the custom one resolves there to the same gates with the
    same requirements. -/
theorem restated_resolves_alike (built : build registrations = .ok c) (plain : c.Plain)
    (resolves : ∀ featureSet ∈ c.featureSets.names, ∃ p, resolve c featureSet none observed = .ok p) :
    ∃ restated, c.restated observed = .ok restated ∧ ∀ registrations', registrations'.Perm restated →
      ∃ c', build registrations' = .ok c' ∧ c'.knownNames = c.knownNames ∧
        ∀ featureSet, featureSet ≠ customFeatureSet →
          resolve c' featureSet none observed = resolve c featureSet none observed := by
  have wf := wellFormed_of_build built
  obtain ⟨restated, hrestated⟩ := exists_restated resolves
  refine ⟨restated, hrestated, fun registrations' perm => ?_⟩
  obtain ⟨c', built'⟩ := exists_build_restated plain wf hrestated perm
  have restates := restates_of_build plain hrestated perm built'
  exact ⟨c', built', restates.knownNames_eq, fun featureSet hcustom => restates.resolve_eq wf hcustom⟩

/-- The default set borrows what the two other sets require of `A`, of which the first one counts. -/
def gated : List Registration := [
  ("Default", ⟨[⟨"A", []⟩, ⟨"B", [⟨"Kubelet", "1.29.0"⟩]⟩], [⟨"C", []⟩]⟩),
  ("TechPreviewNoUpgrade", ⟨[⟨"C", []⟩], [⟨"A", [⟨"Kubelet", "1.31.0"⟩]⟩]⟩),
  ("DevPreviewNoUpgrade", ⟨[⟨"A", [⟨"CRI", "1.0.0"⟩]⟩, ⟨"D", []⟩], []⟩)]

/-- A pre-release of the kubelet is observed, and no other component. -/
theorem restated_resolves_alike_gated :
    ∃ c restated, build gated = .ok c ∧ c.Plain ∧
      (∀ featureSet ∈ c.featureSets.names,
        ∃ p, resolve c featureSet none (.ofList [("Kubelet", "1.30.0-rc.1")]) = .ok p) ∧
      c.restated (.ofList [("Kubelet", "1.30.0-rc.1")]) = .ok restated ∧
      ∀ registrations', registrations'.Perm restated →
        ∃ c', build registrations' = .ok c' ∧ c'.knownNames = c.knownNames ∧
          ∀ featureSet, featureSet ≠ customFeatureSet →
            resolve c' featureSet none (.ofList [("Kubelet", "1.30.0-rc.1")]) =
              resolve c featureSet none (.ofList [("Kubelet", "1.30.0-rc.1")]) := by
  have h : ∃ c, build gated = .ok c ∧
      c.featureSets.names = ["Default", "DevPreviewNoUpgrade", "TechPreviewNoUpgrade"] ∧
      (∃ p, resolve c "Default" none (.ofList [("Kubelet", "1.30.0-rc.1")]) = .ok p) ∧
      (∃ p, resolve c "DevPreviewNoUpgrade" none (.ofList [("Kubelet", "1.30.0-rc.1")]) = .ok p) ∧
      ∃ p, resolve c "TechPreviewNoUpgrade" none (.ofList [("Kubelet", "1.30.0-rc.1")]) = .ok p :=
    ⟨_, rfl, rfl, ⟨_, rfl⟩, ⟨_, rfl⟩, ⟨_, rfl⟩⟩
  obtain ⟨c, built, hnames, hdefault, hdev, htech⟩ := h
  have plain : c.Plain := by
    rw [Plain, hnames]
    decide
  have resolves : ∀ featureSet ∈ c.featureSets.names,
      ∃ p, resolve c featureSet none (.ofList [("Kubelet", "1.30.0-rc.1")]) = .ok p := by
    simp [hnames, hdefault, hdev, htech]
  obtain ⟨restated, hrestated, halike⟩ := restated_resolves_alike built plain resolves
  exact ⟨c, restated, built, plain, resolves, hrestated, halike⟩

end Catalog

end

end GateOperator
