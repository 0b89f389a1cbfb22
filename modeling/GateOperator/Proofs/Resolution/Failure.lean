import GateOperator.Proofs.Resolution.Carried
import GateOperator.Proofs.Resolution.Success

/-!
With what a resolution fails. Three things can stand in its way: a gate that is forced both ways, a feature set
that is not in the catalog, and a gate that is wanted on whose requirements cannot be checked to the end. Main
statement: each of them is reported when it is there and none before it is, under the least name of a gate that
it concerns, and without them the resolution succeeds.
-/

namespace GateOperator

/-- The gate is forced on and off, and the feature set lets gates be forced. -/
def Contradicted (featureSet : String) (custom : Option CustomSelection) (gate : String) : Prop :=
  effectiveFeatureSet featureSet = customFeatureSet ∧ ForcedOn custom gate ∧ ForcedOff custom gate

/-- The feature set is looked up in the catalog and is not there. -/
def Catalog.Lacks (c : Catalog) (featureSet : String) : Prop :=
  effectiveFeatureSet featureSet ≠ customFeatureSet ∧ c.policy? (effectiveFeatureSet featureSet) = none

/-- The gate is wanted on and carries the requirement after others that are all met, but what is observed of the
    component is not a semantic version. -/
structure Unreadable (c : Catalog) (featureSet : String) (custom : Option CustomSelection)
    (observed : Observations) (gate : String) (r : Requirement) (text : String) (reason : Version.ParseError) :
    Prop where
  wanted : Wanted c featureSet custom gate
  carried : ∃ before after, c.Carries (effectiveFeatureSet featureSet) gate (before ++ r :: after) ∧
    ∀ earlier ∈ before, earlier.Met observed
  found : observed.find? r.component = some text
  nonempty : text ≠ ""
  malformed : Version.parse text = .error reason

/-- Some requirement of the gate has an observation that cannot be read. -/
def Stumbles (c : Catalog) (featureSet : String) (custom : Option CustomSelection) (observed : Observations)
    (gate : String) : Prop :=
  ∃ r text reason, Unreadable c featureSet custom observed gate r text reason

section
variable {c : Catalog} {registrations : List Registration} {featureSet gate : String}
  {custom : Option CustomSelection} {observed : Observations} {s : Selection} {g : Gate} {r : Requirement}
  {requirements : List Requirement} {e : ResolveError}

/-! ### Requirements -/

theorem Requirement.unmet?_eq_error_iff (wf : r.WellFormed) :
    r.unmet? gate observed = .error e ↔ ∃ text reason, observed.find? r.component = some text ∧ text ≠ "" ∧
      Version.parse text = .error reason ∧ e = .invalidObservedVersion gate r.component text reason := by
  obtain ⟨required, hrequired⟩ := wf.version
  constructor
  · intro h
    simp only [Requirement.unmet?, hrequired] at h
    split at h
    · cases h
    · rename_i text htext
      obtain ⟨hfind, hne⟩ := Observations.version?_eq_some_iff.mp htext
      split at h
      · rename_i reason hreason
        cases h
        exact ⟨text, reason, hfind, hne, hreason, rfl⟩
      · cases h
  · rintro ⟨text, reason, hfind, hne, hreason, rfl⟩
    simp only [Requirement.unmet?, Observations.version?_eq_some_iff.mpr ⟨hfind, hne⟩, hrequired, hreason]

/-- A check gets to a requirement when all requirements before it are met. -/
theorem firstUnmet?_eq_error_iff :
    firstUnmet? gate observed requirements = .error e ↔ ∃ before r after, requirements = before ++ r :: after ∧
      (∀ earlier ∈ before, earlier.Met observed) ∧ r.unmet? gate observed = .error e := by
  induction requirements with
  | nil => simp [firstUnmet?]
  | cons r requirements ih =>
    rw [firstUnmet?]
    constructor
    · intro h
      split at h
      · rename_i hr
        cases h
        exact ⟨[], r, requirements, rfl, by simp, hr⟩
      · cases h
      · rename_i hr
        obtain ⟨before, r', after, rfl, hmet, he⟩ := ih.mp h
        exact ⟨r :: before, r', after, rfl,
          List.forall_mem_cons.mpr ⟨Requirement.unmet?_eq_none_iff.mp hr, hmet⟩, he⟩
    · rintro ⟨before, r', after, split, hmet, he⟩
      cases before with
      | nil =>
        cases split
        rw [he]
      | cons _ before =>
        cases split
        obtain ⟨hr, hmet⟩ := List.forall_mem_cons.mp hmet
        rw [Requirement.unmet?_eq_none_iff.mpr hr]
        exact ih.mpr ⟨before, r', after, rfl, hmet, he⟩

/-! ### Selecting the gates -/

theorem Selection.mem_names_of_wanted (hs : Selection.of c featureSet custom = .ok s)
    (wanted : Wanted c featureSet custom gate) : gate ∈ s.names := by
  have known {set : String} (enables : c.Enables set gate) : gate ∈ c.knownNames := by
    obtain ⟨policy, hpolicy, henabled⟩ := enables
    refine Catalog.mem_knownNames_iff.mpr ⟨set, policy, hpolicy, ?_⟩
    rw [Policy.names_gates]
    exact List.mem_append_left _ henabled
  rw [mem_names_iff hs]
  unfold Wanted at wanted
  split at wanted
  · rename_i hset
    rcases wanted with hon | ⟨hdefault, -⟩
    · exact .inr ⟨hset, .inl hon⟩
    · exact .inl (known hdefault)
  · exact .inl (known wanted)

theorem leastCommon?_overrides_eq_some_iff (hset : effectiveFeatureSet featureSet = customFeatureSet) :
    Names.leastCommon? (Selection.overrides (custom.getD ⟨[], []⟩).enabled)
        (Selection.overrides (custom.getD ⟨[], []⟩).disabled) = some gate ↔
      Names.Least (Contradicted featureSet custom) gate := by
  simp only [Names.leastCommon?_eq_some_iff, Selection.mem_overrides_enabled, Selection.mem_overrides_disabled,
    Names.Least, Contradicted, hset, true_and]

theorem not_exists_contradicted_iff (hset : effectiveFeatureSet featureSet = customFeatureSet) :
    (¬∃ gate, Contradicted featureSet custom gate) ↔ ∀ gate, ForcedOn custom gate → ¬ForcedOff custom gate := by
  simp only [Contradicted, hset, true_and, not_exists, not_and]

theorem Selection.of_eq_error_iff :
    Selection.of c featureSet custom = .error e ↔
      (∃ gate, Names.Least (Contradicted featureSet custom) gate ∧ e = .conflictingOverride gate) ∨
        c.Lacks featureSet ∧ e = .featureSetNotFound (effectiveFeatureSet featureSet) := by
  by_cases hset : effectiveFeatureSet featureSet = customFeatureSet
  · have hlacks : ¬c.Lacks featureSet := fun h => h.1 hset
    simp only [Selection.of, if_pos hset, ofCustom, hlacks, false_and, or_false]
    constructor
    · intro h
      split at h
      · rename_i gate hgate
        cases h
        exact ⟨gate, (leastCommon?_overrides_eq_some_iff hset).mp hgate, rfl⟩
      · cases h
    · rintro ⟨gate, hleast, rfl⟩
      rw [(leastCommon?_overrides_eq_some_iff hset).mpr hleast]
  · have hleast : ∀ gate, ¬Names.Least (Contradicted featureSet custom) gate := fun gate h => hset h.1.1
    simp only [Selection.of, if_neg hset, ofFeatureSet, hleast, false_and, exists_false, false_or]
    constructor
    · intro h
      split at h
      · rename_i hnone
        cases h
        exact ⟨⟨hset, hnone⟩, rfl⟩
      · cases h
    · rintro ⟨⟨-, hnone⟩, rfl⟩
      rw [hnone]

theorem Selection.exists_of_iff :
    (∃ s, Selection.of c featureSet custom = .ok s) ↔
      (¬∃ gate, Contradicted featureSet custom gate) ∧ ¬c.Lacks featureSet := by
  by_cases hset : effectiveFeatureSet featureSet = customFeatureSet
  · have hlacks : ¬c.Lacks featureSet := fun h => h.1 hset
    rw [and_iff_left hlacks, not_exists_contradicted_iff hset, ← leastCommon?_overrides_eq_none_iff, Selection.of,
      if_pos hset, ofCustom]
    split
    · rename_i hsome
      simp [hsome]
    · rename_i hnone
      simp [hnone]
  · have hnone : ¬∃ gate, Contradicted featureSet custom gate := by
      rintro ⟨gate, contradicted⟩
      exact hset contradicted.1
    rw [and_iff_right hnone, Catalog.Lacks, and_iff_right hset, Selection.of, if_neg hset, ofFeatureSet]
    split
    · rename_i habsent
      simp [habsent]
    · rename_i hpolicy
      simp [hpolicy]

/-! ### Checking the requirements -/

theorem Selection.unmet?_gate_eq_error_iff (wf : c.WellFormed) (hs : Selection.of c featureSet custom = .ok s) :
    s.wants gate = true ∧ (s.gate gate).unmet? observed = .error e ↔
      ∃ r text reason, Unreadable c featureSet custom observed gate r text reason ∧
        e = .invalidObservedVersion gate r.component text reason := by
  have carries : c.Carries (effectiveFeatureSet featureSet) gate (s.requirements gate) := (carries_iff wf hs).mpr rfl
  rw [wants_iff hs, Gate.unmet?]
  constructor
  · rintro ⟨wanted, h⟩
    obtain ⟨before, r, after, split, hmet, he⟩ := firstUnmet?_eq_error_iff.mp h
    have split : s.requirements gate = before ++ r :: after := split
    rw [split] at carries
    obtain ⟨text, reason, hfind, hne, hreason, rfl⟩ :=
      (Requirement.unmet?_eq_error_iff (carries.wellFormed wf r (by simp))).mp he
    exact ⟨r, text, reason, ⟨wanted, ⟨before, after, carries, hmet⟩, hfind, hne, hreason⟩, rfl⟩
  · rintro ⟨r, text, reason, ⟨wanted, ⟨before, after, hcarries, hmet⟩, hfind, hne, hreason⟩, rfl⟩
    have split : s.requirements gate = before ++ r :: after := (carries_iff wf hs).mp hcarries
    refine ⟨wanted, firstUnmet?_eq_error_iff.mpr ⟨before, r, after, split, hmet, ?_⟩⟩
    exact (Requirement.unmet?_eq_error_iff (hcarries.wellFormed wf r (by simp))).mpr
      ⟨text, reason, hfind, hne, hreason, rfl⟩

theorem Selection.checks_iff (wf : c.WellFormed) (hs : Selection.of c featureSet custom = .ok s) (hg : g ∈ s.gates) :
    (s.wants g.name = true → ∃ reason, g.unmet? observed = .ok reason) ↔
      ¬Stumbles c featureSet custom observed g.name := by
  have error_iff (e : ResolveError) : s.wants g.name = true ∧ g.unmet? observed = .error e ↔
      ∃ r text reason, Unreadable c featureSet custom observed g.name r text reason ∧
        e = .invalidObservedVersion g.name r.component text reason := by
    rw [eq_gate_of_mem hg]
    exact unmet?_gate_eq_error_iff wf hs
  constructor
  · rintro h ⟨r, text, reason, unreadable⟩
    obtain ⟨hwants, he⟩ := (error_iff _).mpr ⟨r, text, reason, unreadable, rfl⟩
    obtain ⟨reason, hok⟩ := h hwants
    cases he.symm.trans hok
  · intro h hwants
    cases hunmet : g.unmet? observed with
    | ok reason => exact ⟨reason, rfl⟩
    | error e =>
      obtain ⟨r, text, reason, unreadable, -⟩ := (error_iff e).mp ⟨hwants, hunmet⟩
      exact absurd ⟨r, text, reason, unreadable⟩ h

theorem Selection.checkable_iff_not_stumbles (wf : c.WellFormed) (hs : Selection.of c featureSet custom = .ok s) :
    s.Checkable observed ↔ ¬∃ gate, Stumbles c featureSet custom observed gate := by
  constructor
  · rintro checkable ⟨gate, stumbles⟩
    obtain ⟨_, _, _, unreadable⟩ := id stumbles
    have hg : s.gate gate ∈ s.gates := List.mem_map_of_mem (mem_names_of_wanted hs unreadable.wanted)
    exact (checks_iff wf hs hg).mp (checkable _ hg) stumbles
  · intro h g hg
    exact (checks_iff wf hs hg).mpr fun stumbles => h ⟨g.name, stumbles⟩

/-- Of the gates that cannot be checked the one with the least name comes first. -/
theorem Selection.failsWith_iff_least (wf : c.WellFormed) (hs : Selection.of c featureSet custom = .ok s) :
    s.FailsWith observed e ↔ ∃ gate r text reason, Names.Least (Stumbles c featureSet custom observed) gate ∧
      Unreadable c featureSet custom observed gate r text reason ∧
        e = .invalidObservedVersion gate r.component text reason := by
  have sorted : Ascending (s.gates.map (·.name)) := by
    rw [names_gates]
    exact ascending_names hs
  constructor
  · rintro ⟨before, g, after, split, hbefore, hwants, he⟩
    have hg : g ∈ s.gates := by simp [split]
    have passed : ∀ g' ∈ before, ¬Stumbles c featureSet custom observed g'.name := fun g' hg' =>
      (checks_iff wf hs (by simp [split, hg'])).mp (hbefore g' hg')
    have hleast := ((Names.first_iff_least (·.name) sorted).mp ⟨before, after, split, passed⟩).2
    rw [eq_gate_of_mem hg] at he
    obtain ⟨r, text, reason, unreadable, rfl⟩ := (unmet?_gate_eq_error_iff wf hs).mp ⟨hwants, he⟩
    refine ⟨g.name, r, text, reason, ⟨⟨r, text, reason, unreadable⟩, fun other stumbles => ?_⟩, unreadable, rfl⟩
    obtain ⟨_, _, _, unreadable⟩ := id stumbles
    exact hleast (s.gate other) (List.mem_map_of_mem (mem_names_of_wanted hs unreadable.wanted)) stumbles
  · rintro ⟨gate, r, text, reason, ⟨-, hleast⟩, unreadable, rfl⟩
    have hg : s.gate gate ∈ s.gates := List.mem_map_of_mem (mem_names_of_wanted hs unreadable.wanted)
    obtain ⟨before, after, split, passed⟩ :=
      (Names.first_iff_least (·.name) (P := fun g => Stumbles c featureSet custom observed g.name) sorted).mpr
        ⟨hg, fun g _ stumbles => hleast g.name stumbles⟩
    obtain ⟨hwants, he⟩ := (unmet?_gate_eq_error_iff wf hs).mpr ⟨r, text, reason, unreadable, rfl⟩
    refine ⟨before, s.gate gate, after, split, fun g hg => ?_, hwants, he⟩
    exact (checks_iff wf hs (by simp [split, hg])).mpr (passed g hg)

/-! ### With nothing observed -/

/-- A gate without requirements has all of them met, and the first requirement of any other is not met. -/
theorem Gate.exists_unmet?_empty (g : Gate) : ∃ reason, g.unmet? .empty = .ok reason := by
  obtain ⟨name, requirements⟩ := g
  cases requirements with
  | nil => exact ⟨none, rfl⟩
  | cons r requirements => exact ⟨some (.notObserved r.component), rfl⟩

theorem Selection.not_failsWith_empty : ¬s.FailsWith .empty e := by
  rintro ⟨before, g, after, -, -, -, h⟩
  obtain ⟨reason, hreason⟩ := g.exists_unmet?_empty
  cases hreason.symm.trans h

/-- Then nothing but the selection of the gates can fail. -/
theorem resolve_empty_eq_error_iff :
    resolve c featureSet custom .empty = .error e ↔
      (∃ gate, Names.Least (Contradicted featureSet custom) gate ∧ e = .conflictingOverride gate) ∨
        c.Lacks featureSet ∧ e = .featureSetNotFound (effectiveFeatureSet featureSet) := by
  rw [resolve_eq_error_iff, ← Selection.of_eq_error_iff, or_iff_left]
  rintro ⟨s, -, hfails⟩
  exact Selection.not_failsWith_empty hfails

/-! ### The statement -/

theorem resolve_eq_error_iff_least (wf : c.WellFormed) :
    resolve c featureSet custom observed = .error e ↔
      (∃ gate, Names.Least (Contradicted featureSet custom) gate ∧ e = .conflictingOverride gate) ∨
      (c.Lacks featureSet ∧ e = .featureSetNotFound (effectiveFeatureSet featureSet)) ∨
      (¬∃ gate, Contradicted featureSet custom gate) ∧ ¬c.Lacks featureSet ∧
        ∃ gate r text reason, Names.Least (Stumbles c featureSet custom observed) gate ∧
          Unreadable c featureSet custom observed gate r text reason ∧
            e = .invalidObservedVersion gate r.component text reason := by
  rw [resolve_eq_error_iff, Selection.of_eq_error_iff, or_assoc, ← and_assoc, ← Selection.exists_of_iff (c := c)]
  refine or_congr_right (or_congr_right ⟨?_, ?_⟩)
  · rintro ⟨s, hs, hfails⟩
    exact ⟨⟨s, hs⟩, (Selection.failsWith_iff_least wf hs).mp hfails⟩
  · rintro ⟨⟨s, hs⟩, h⟩
    exact ⟨s, hs, (Selection.failsWith_iff_least wf hs).mpr h⟩

theorem exists_resolve_iff (wf : c.WellFormed) :
    (∃ p, resolve c featureSet custom observed = .ok p) ↔ (¬∃ gate, Contradicted featureSet custom gate) ∧
      ¬c.Lacks featureSet ∧ ¬∃ gate, Stumbles c featureSet custom observed gate := by
  rw [← and_assoc, ← Selection.exists_of_iff]
  simp only [resolve_eq_ok_iff]
  constructor
  · rintro ⟨_, s, hs, checkable, -⟩
    exact ⟨⟨s, hs⟩, (Selection.checkable_iff_not_stumbles wf hs).mp checkable⟩
  · rintro ⟨⟨s, hs⟩, h⟩
    exact ⟨_, s, hs, (Selection.checkable_iff_not_stumbles wf hs).mpr h, rfl⟩

theorem exists_conflictingOverride_iff (wf : c.WellFormed) :
    (∃ gate, resolve c featureSet custom observed = .error (.conflictingOverride gate)) ↔
      ∃ gate, Contradicted featureSet custom gate := by
  constructor
  · rintro ⟨gate, h⟩
    rcases (resolve_eq_error_iff_least wf).mp h with ⟨gate, least, -⟩ | ⟨-, h⟩ | ⟨-, -, _, _, _, _, -, -, h⟩
    · exact ⟨gate, least.1⟩
    · cases h
    · cases h
  · intro contradicted
    cases h : resolve c featureSet custom observed with
    | ok p => exact absurd contradicted ((exists_resolve_iff wf).mp ⟨p, h⟩).1
    | error e =>
      rcases (resolve_eq_error_iff_least wf).mp h with ⟨gate, -, rfl⟩ | ⟨lacks, -⟩ | ⟨none_contradicted, -⟩
      · exact ⟨gate, rfl⟩
      · obtain ⟨_, hset, -⟩ := contradicted
        exact absurd hset lacks.1
      · exact absurd contradicted none_contradicted

theorem exists_invalidObservedVersion_iff (wf : c.WellFormed) :
    (∃ gate component text reason,
        resolve c featureSet custom observed = .error (.invalidObservedVersion gate component text reason)) ↔
      (¬∃ gate, Contradicted featureSet custom gate) ∧ ¬c.Lacks featureSet ∧
        ∃ gate, Stumbles c featureSet custom observed gate := by
  constructor
  · rintro ⟨_, _, _, _, h⟩
    rcases (resolve_eq_error_iff_least wf).mp h with ⟨_, -, h⟩ | ⟨-, h⟩ | ⟨consistent, there, gate, _, _, _, least, -⟩
    · cases h
    · cases h
    · exact ⟨consistent, there, gate, least.1⟩
  · rintro ⟨consistent, there, stumbles⟩
    cases h : resolve c featureSet custom observed with
    | ok p => exact absurd stumbles ((exists_resolve_iff wf).mp ⟨p, h⟩).2.2
    | error e =>
      rcases (resolve_eq_error_iff_least wf).mp h with ⟨gate, least, -⟩ | ⟨lacks, -⟩ | ⟨-, -, _, _, _, _, -, -, rfl⟩
      · exact absurd ⟨gate, least.1⟩ consistent
      · exact absurd lacks there
      · exact ⟨_, _, _, _, rfl⟩

/-- A gate that is forced both ways comes first, then a feature set that is not there, then an observed version
    that cannot be read. The least gate concerned is named, with its first requirement of the kind. Without
    anything of this there is a resolution. -/
theorem resolve_fails_exactly (built : Catalog.build registrations = .ok c) :
    ((∃ gate, resolve c featureSet custom observed = .error (.conflictingOverride gate)) ↔
        ∃ gate, Contradicted featureSet custom gate) ∧
      (∀ gate, resolve c featureSet custom observed = .error (.conflictingOverride gate) ↔
        Names.Least (Contradicted featureSet custom) gate) ∧
      (∀ name, resolve c featureSet custom observed = .error (.featureSetNotFound name) ↔
        c.Lacks featureSet ∧ name = effectiveFeatureSet featureSet) ∧
      ((∃ gate component text reason,
          resolve c featureSet custom observed = .error (.invalidObservedVersion gate component text reason)) ↔
        (¬∃ gate, Contradicted featureSet custom gate) ∧ ¬c.Lacks featureSet ∧
          ∃ gate, Stumbles c featureSet custom observed gate) ∧
      (∀ gate component text reason,
        resolve c featureSet custom observed = .error (.invalidObservedVersion gate component text reason) ↔
          (¬∃ gate, Contradicted featureSet custom gate) ∧ ¬c.Lacks featureSet ∧
            Names.Least (Stumbles c featureSet custom observed) gate ∧
              ∃ r, r.component = component ∧ Unreadable c featureSet custom observed gate r text reason) ∧
      ((∃ p, resolve c featureSet custom observed = .ok p) ↔ (¬∃ gate, Contradicted featureSet custom gate) ∧
        ¬c.Lacks featureSet ∧ ¬∃ gate, Stumbles c featureSet custom observed gate) := by
  have wf := Catalog.wellFormed_of_build built
  refine ⟨exists_conflictingOverride_iff wf, fun gate => ?_, fun name => ?_, exists_invalidObservedVersion_iff wf,
    fun gate component text reason => ?_, exists_resolve_iff wf⟩
  · simp [resolve_eq_error_iff_least wf]
  · simp [resolve_eq_error_iff_least wf]
  · rw [resolve_eq_error_iff_least wf]
    constructor
    · rintro (⟨_, -, h⟩ | ⟨-, h⟩ | ⟨consistent, there, gate, r, text, reason, least, unreadable, h⟩)
      · cases h
      · cases h
      · cases h
        exact ⟨consistent, there, least, r, rfl, unreadable⟩
    · rintro ⟨consistent, there, least, r, rfl, unreadable⟩
      exact .inr (.inr ⟨consistent, there, gate, r, text, reason, least, unreadable, rfl⟩)

/-- `B` and `C` want the kubelet, and so does `A`, but after a component that is not observed. `0` is off. -/
def stalling : List Registration := [
  ("Default", ⟨[⟨"C", [⟨"Kubelet", "1.29.0"⟩]⟩, ⟨"B", [⟨"Etcd", "3.5.0"⟩, ⟨"Kubelet", "1.29.0"⟩]⟩,
    ⟨"A", [⟨"CRI", "1.0.0"⟩, ⟨"Kubelet", "1.29.0"⟩]⟩], [⟨"0", [⟨"Kubelet", "1.29.0"⟩]⟩]⟩)]

/-- The kubelet is observed in a version that cannot be read. -/
def unreadableKubelet : Observations := .ofList [("Etcd", "3.6.0"), ("Kubelet", "v1.30.0")]

theorem resolve_fails_exactly_stalling :
    ∃ c, Catalog.build stalling = .ok c ∧
      Names.Least (Stumbles c "" none unreadableKubelet) "B" ∧
      (∃ r, r.component = "Kubelet" ∧
        Unreadable c "" none unreadableKubelet "B" r "v1.30.0" (.unexpected 'v' .major)) ∧
      Names.Least (Contradicted customFeatureSet (some ⟨["Y", "B", "X"], ["X", "Y", ""]⟩)) "X" ∧
      c.Lacks "TechPreviewNoUpgrade" := by
  have h : ∃ c, Catalog.build stalling = .ok c ∧
      resolve c "" none unreadableKubelet =
        .error (.invalidObservedVersion "B" "Kubelet" "v1.30.0" (.unexpected 'v' .major)) ∧
      resolve c customFeatureSet (some ⟨["Y", "B", "X"], ["X", "Y", ""]⟩) unreadableKubelet =
        .error (.conflictingOverride "X") ∧
      resolve c "TechPreviewNoUpgrade" none unreadableKubelet = .error (.featureSetNotFound "TechPreviewNoUpgrade") :=
    ⟨_, rfl, rfl, rfl, rfl⟩
  obtain ⟨c, built, hstumbles, hcontradicted, hlacks⟩ := h
  obtain ⟨-, -, least, r, hcomponent, unreadable⟩ := ((resolve_fails_exactly built).2.2.2.2.1 _ _ _ _).mp hstumbles
  exact ⟨c, built, least, ⟨r, hcomponent, unreadable⟩, ((resolve_fails_exactly built).2.1 _).mp hcontradicted,
    (((resolve_fails_exactly built).2.2.1 _).mp hlacks).1⟩

end

end GateOperator
