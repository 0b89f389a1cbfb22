import GateOperator.Proofs.Resolution.Success

/-!
How a resolution depends on what is observed. Which gates are wanted and what they require does not; only
whether the requirements are met does. Main statement: newer component versions never switch a gate off, and
build metadata make no difference at all.
-/

namespace GateOperator

namespace Observations

/-- Each component that has a semantic version has one of at least the same precedence in the other map. -/
def RaisedTo (m m' : Observations) : Prop :=
  ∀ component text version, m.find? component = some text → Version.parse text = .ok version →
    ∃ text' version', m'.find? component = some text' ∧ Version.parse text' = .ok version' ∧
      version'.AtLeast version

/-- The versions differ in build metadata at most. -/
def SameUpToBuild (m m' : Observations) : Prop :=
  ∀ component, m.find? component = m'.find? component ∨
    ∃ text text' version version', m.find? component = some text ∧ m'.find? component = some text' ∧
      Version.parse text = .ok version ∧ Version.parse text' = .ok version' ∧ version.SamePrecedence version'

end Observations

section
variable {m m' : Observations} {r : Requirement} {g : Gate} {gate text : String} {version : Version}
  {requirements : List Requirement} {s : Selection} {c : Catalog} {featureSet : String}
  {custom : Option CustomSelection}

theorem Version.ne_empty_of_parse (h : parse text = .ok version) : text ≠ "" := by
  rintro rfl
  cases h

/-! ### Raising -/

theorem Requirement.Met.raise (met : r.Met m) (raised : m.RaisedTo m') : r.Met m' := by
  obtain ⟨text, version, required, hfind, -, hversion, hrequired, hatLeast⟩ := met
  obtain ⟨text', version', hfind', hversion', hraised⟩ := raised r.component text version hfind hversion
  exact ⟨text', version', required, hfind', Version.ne_empty_of_parse hversion', hversion', hrequired,
    hraised.trans hatLeast⟩

theorem Selection.mem_enabled_partition : g ∈ (s.partition m).enabled ↔ g ∈ s.gates ∧ s.TurnsOn m g := by
  simp [partition]

theorem Selection.enabled_raise (raised : m.RaisedTo m') (h : g ∈ (s.partition m).enabled) :
    g ∈ (s.partition m').enabled := by
  obtain ⟨hg, hwants, hmet⟩ := mem_enabled_partition.mp h
  exact mem_enabled_partition.mpr ⟨hg, hwants, fun r hr => (hmet r hr).raise raised⟩

/-! ### Build metadata -/

/-- The checks find a reason or none alike, or the same error, though the words of a reason may differ. -/
theorem Requirement.unmet?_isNone_eq (same : m.SameUpToBuild m') :
    (r.unmet? gate m).map Option.isNone = (r.unmet? gate m').map Option.isNone := by
  rcases same r.component with h | ⟨text, text', version, version', hfind, hfind', hversion, hversion', hsame⟩
  · rw [Requirement.unmet?, Requirement.unmet?, Observations.version?, Observations.version?, h]
  · have htext := Observations.version?_eq_some_iff.mpr ⟨hfind, Version.ne_empty_of_parse hversion⟩
    have htext' := Observations.version?_eq_some_iff.mpr ⟨hfind', Version.ne_empty_of_parse hversion'⟩
    cases hrequired : Version.parse r.version with
    | error reason => simp only [Requirement.unmet?, htext, htext', hrequired]
    | ok required =>
      simp only [Requirement.unmet?, htext, htext', hrequired, hversion, hversion',
        hsame.reaches_eq (c := required)]
      split <;> rfl

theorem firstUnmet?_isNone_eq (same : m.SameUpToBuild m') :
    (firstUnmet? gate m requirements).map Option.isNone = (firstUnmet? gate m' requirements).map Option.isNone := by
  induction requirements with
  | nil => rfl
  | cons r requirements ih =>
    have hr := @Requirement.unmet?_isNone_eq m m' r gate same
    rw [firstUnmet?, firstUnmet?]
    split <;> split <;> simp_all [Except.map]

theorem Gate.unmet?_isNone_eq (same : m.SameUpToBuild m') :
    (g.unmet? m).map Option.isNone = (g.unmet? m').map Option.isNone :=
  firstUnmet?_isNone_eq same

theorem Gate.unmet?_eq_error_iff (same : m.SameUpToBuild m') {e : ResolveError} :
    g.unmet? m = .error e ↔ g.unmet? m' = .error e := by
  rw [← Except.map_eq_error_iff (f := Option.isNone), Gate.unmet?_isNone_eq same, Except.map_eq_error_iff]

theorem Gate.exists_unmet?_iff (same : m.SameUpToBuild m') :
    (∃ reason, g.unmet? m = .ok reason) ↔ ∃ reason, g.unmet? m' = .ok reason := by
  have h := Gate.unmet?_isNone_eq (g := g) same
  cases hm : g.unmet? m <;> cases hm' : g.unmet? m' <;> simp_all [Except.map]

theorem Gate.met_iff_isNone : g.Met m ↔ (g.unmet? m).map Option.isNone = .ok true := by
  rw [← Gate.unmet?_eq_none_iff, Except.map_eq_ok_iff]
  simp

theorem Selection.turnsOn_iff (same : m.SameUpToBuild m') : s.TurnsOn m g ↔ s.TurnsOn m' g := by
  rw [TurnsOn, TurnsOn, Gate.met_iff_isNone, Gate.met_iff_isNone, Gate.unmet?_isNone_eq same]

theorem Selection.partition_eq (same : m.SameUpToBuild m') : s.partition m = s.partition m' := by
  simp only [partition, turnsOn_iff same]

theorem Selection.checkable_iff (same : m.SameUpToBuild m') : s.Checkable m ↔ s.Checkable m' := by
  simp only [Checkable, Gate.exists_unmet?_iff same]

theorem Selection.failsWith_iff (same : m.SameUpToBuild m') {e : ResolveError} :
    s.FailsWith m e ↔ s.FailsWith m' e := by
  simp only [FailsWith, Gate.exists_unmet?_iff same, Gate.unmet?_eq_error_iff same]

theorem resolve_eq_of_same (same : m.SameUpToBuild m') :
    resolve c featureSet custom m = resolve c featureSet custom m' := by
  cases h : resolve c featureSet custom m with
  | ok p =>
    obtain ⟨s, hs, hcheckable, hp⟩ := resolve_eq_ok_iff.mp h
    rw [Selection.checkable_iff same] at hcheckable
    rw [Selection.partition_eq same] at hp
    exact (resolve_eq_ok_iff.mpr ⟨s, hs, hcheckable, hp⟩).symm
  | error e =>
    rcases resolve_eq_error_iff.mp h with hs | ⟨s, hs, hfails⟩
    · exact (resolve_eq_error_iff.mpr (.inl hs)).symm
    · exact (resolve_eq_error_iff.mpr (.inr ⟨s, hs, (Selection.failsWith_iff same).mp hfails⟩)).symm

/-! ### The statement -/

/-- A gate that is on stays on, and keeps its requirements, when the components are observed in newer versions
    and further components are observed. Where only build metadata differ, the whole result is the same. -/
theorem resolve_raised_keeps_on :
    (∀ p p', m.RaisedTo m' → resolve c featureSet custom m = .ok p → resolve c featureSet custom m' = .ok p' →
        ∀ g ∈ p.enabled, g ∈ p'.enabled) ∧
      (m.SameUpToBuild m' → resolve c featureSet custom m = resolve c featureSet custom m') := by
  refine ⟨fun p p' raised h h' g hg => ?_, resolve_eq_of_same⟩
  obtain ⟨s, hs, -, rfl⟩ := resolve_eq_ok_iff.mp h
  obtain ⟨s', hs', -, rfl⟩ := resolve_eq_ok_iff.mp h'
  cases hs.symm.trans hs'
  exact Selection.enabled_raise raised hg

theorem Observations.RaisedTo.insert {component text' : String} {version' : Version} (raised : m.RaisedTo m')
    (hversion : Version.parse text = .ok version) (hversion' : Version.parse text' = .ok version')
    (h : version'.AtLeast version) : RaisedTo (.insert m component text) (.insert m' component text') := by
  intro other text₀ version₀ hfind hversion₀
  simp only [NameMap.find?_insert] at hfind ⊢
  split
  · rename_i hother
    rw [if_pos hother] at hfind
    cases hfind
    cases hversion.symm.trans hversion₀
    exact ⟨text', version', rfl, hversion', h⟩
  · rename_i hother
    rw [if_neg hother] at hfind
    exact raised other text₀ version₀ hfind hversion₀

/-- The observed kubelet version alone. -/
def kubeletAt (text : String) : Observations := .insert .empty Observations.kubelet text

/-- A release, then a pre-release above it, and the release with other build metadata. -/
theorem resolve_raised_keeps_on_kubelet :
    ∃ p p', (kubeletAt "1.30.0+a").RaisedTo (kubeletAt "1.31.0-rc.1") ∧
      resolve overlapping "" none (kubeletAt "1.30.0+a") = .ok p ∧
      resolve overlapping "" none (kubeletAt "1.31.0-rc.1") = .ok p' ∧
      p.enabledNames = ["A", "B"] ∧ (∀ g ∈ p.enabled, g ∈ p'.enabled) ∧
      (kubeletAt "1.30.0+a").SameUpToBuild (kubeletAt "1.30.0+b") ∧
      resolve overlapping "" none (kubeletAt "1.30.0+a") = resolve overlapping "" none (kubeletAt "1.30.0+b") := by
  have raised : (kubeletAt "1.30.0+a").RaisedTo (kubeletAt "1.31.0-rc.1") :=
    Observations.RaisedTo.insert (fun _ _ _ h => by cases h) rfl rfl (Version.reaches_iff.mp rfl)
  have same : (kubeletAt "1.30.0+a").SameUpToBuild (kubeletAt "1.30.0+b") := by
    intro component
    by_cases h : component = Observations.kubelet
    · subst h
      exact .inr ⟨_, _, _, _, rfl, rfl, rfl, rfl, rfl, rfl, rfl, rfl⟩
    · exact .inl (by simp [kubeletAt, h])
  have h : ∃ p p', resolve overlapping "" none (kubeletAt "1.30.0+a") = .ok p ∧
      resolve overlapping "" none (kubeletAt "1.31.0-rc.1") = .ok p' ∧ p.enabledNames = ["A", "B"] :=
    ⟨_, _, rfl, rfl, rfl⟩
  obtain ⟨p, p', hp, hp', hon⟩ := h
  exact ⟨p, p', raised, hp, hp', hon, resolve_raised_keeps_on.1 p p' raised hp hp', same,
    resolve_raised_keeps_on.2 same⟩

end

end GateOperator
