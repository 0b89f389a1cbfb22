import GateOperator.Proofs.Data.Traversal
import GateOperator.Proofs.Resolution.Requirement
import GateOperator.Proofs.Resolution.Selection
import GateOperator.Resolution.Basic

/-!
What a resolution is: every gate of the selection, with its requirements, stands on exactly one side, and it
is on when it is wanted and its requirements are met. Main statements: the two sides are sorted, share
nothing and hold all gates and no others; and each gate is on the side where it belongs.
-/

namespace GateOperator

namespace Selection

/-- The gate is wanted on, and its requirements are met. -/
def TurnsOn (s : Selection) (observed : Observations) (g : Gate) : Prop := s.wants g.name = true ∧ g.Met observed

instance {s : Selection} {observed : Observations} {g : Gate} : Decidable (s.TurnsOn observed g) :=
  inferInstanceAs (Decidable (_ ∧ _))

/-- The gates of the selection, on and off. -/
def partition (s : Selection) (observed : Observations) : Partition where
  enabled := s.gates.filter fun g => s.TurnsOn observed g
  disabled := s.gates.filter fun g => ¬s.TurnsOn observed g

section
variable {s : Selection} {observed : Observations} {g : Gate} {name : String} {vs : List (Gate × Verdict)}

theorem verdict_eq_on_iff : s.verdict observed g = .ok .on ↔ s.TurnsOn observed g := by
  unfold verdict TurnsOn
  by_cases hw : s.wants g.name = true
  · rw [if_pos hw, ← Gate.unmet?_eq_none_iff]
    split <;> simp_all
  · simp [hw]

theorem verdicts_eq_ok_iff :
    s.verdicts observed = .ok vs ↔ vs.map (·.1) = s.gates ∧ ∀ v ∈ vs, s.verdict observed v.1 = .ok v.2 :=
  mapM_keyed_eq_ok_iff

/-- The verdicts put each gate of the selection on the side where it belongs. -/
theorem ofVerdicts_eq_partition (h : s.verdicts observed = .ok vs) : .ofVerdicts vs = s.partition observed := by
  obtain ⟨hgates, hverdicts⟩ := verdicts_eq_ok_iff.mp h
  have hon : ∀ v ∈ vs, v.2 = .on ↔ s.TurnsOn observed v.1 := fun v hv => by
    rw [← verdict_eq_on_iff, hverdicts v hv, Except.ok.injEq]
  unfold Partition.ofVerdicts partition
  rw [← hgates, List.filter_map, List.filter_map]
  congr 2
  · exact List.filter_congr fun v hv => decide_eq_decide.mpr (hon v hv)
  · exact List.filter_congr fun v hv => decide_eq_decide.mpr (not_congr (hon v hv))

theorem mem_names_filter {q : Gate → Bool} :
    name ∈ (s.gates.filter q).map (·.name) ↔ name ∈ s.names ∧ q (s.gate name) = true := by
  constructor
  · intro h
    obtain ⟨g, hg, rfl⟩ := List.mem_map.mp h
    obtain ⟨hmem, hq⟩ := List.mem_filter.mp hg
    rw [← eq_gate_of_mem hmem]
    exact ⟨name_mem_of_mem hmem, hq⟩
  · rintro ⟨hname, hq⟩
    exact List.mem_map.mpr ⟨s.gate name, List.mem_filter.mpr ⟨List.mem_map_of_mem hname, hq⟩, rfl⟩

theorem mem_enabledNames_partition :
    name ∈ (s.partition observed).enabledNames ↔ name ∈ s.names ∧ s.TurnsOn observed (s.gate name) := by
  rw [Partition.enabledNames, partition, mem_names_filter, decide_eq_true_iff]

theorem mem_disabledNames_partition :
    name ∈ (s.partition observed).disabledNames ↔ name ∈ s.names ∧ ¬s.TurnsOn observed (s.gate name) := by
  rw [Partition.disabledNames, partition, mem_names_filter, decide_eq_true_iff]

theorem mem_gates_of_mem_partition (h : g ∈ (s.partition observed).enabled ++ (s.partition observed).disabled) :
    g ∈ s.gates := by
  rcases List.mem_append.mp h with h | h
  · exact (List.mem_filter.mp h).1
  · exact (List.mem_filter.mp h).1

end

end Selection

section
variable {c : Catalog} {featureSet : String} {custom : Option CustomSelection} {observed : Observations}
  {p : Partition}

/-- A resolution is the partition of the gates that the feature set selects. -/
theorem exists_selection_of_resolve (h : resolve c featureSet custom observed = .ok p) :
    ∃ s, Selection.of c featureSet custom = .ok s ∧ p = s.partition observed := by
  obtain ⟨vs, hvs, rfl⟩ := Except.map_eq_ok_iff.mp h
  obtain ⟨s, hs, hvs⟩ := Except.bind_eq_ok_iff.mp hvs
  exact ⟨s, hs, Selection.ofVerdicts_eq_partition hvs⟩

/-- Both sides of a resolution are sorted and share no name; together they hold the known gates and, under
    the custom set, those that are forced on or off, and nothing else. -/
theorem resolve_partitions (h : resolve c featureSet custom observed = .ok p) :
    Ascending p.enabledNames ∧ Ascending p.disabledNames ∧
      (∀ name ∈ p.enabledNames, name ∉ p.disabledNames) ∧
      ∀ name, name ∈ p.enabledNames ++ p.disabledNames ↔ name ∈ c.knownNames ∨
        effectiveFeatureSet featureSet = customFeatureSet ∧ (ForcedOn custom name ∨ ForcedOff custom name) := by
  obtain ⟨s, hs, rfl⟩ := exists_selection_of_resolve h
  have hnames : Ascending (s.gates.map (·.name)) := by
    rw [Selection.names_gates]
    exact Selection.ascending_names hs
  refine ⟨hnames.sublist (List.filter_sublist.map _), hnames.sublist (List.filter_sublist.map _), ?_, ?_⟩
  · intro name hon hoff
    exact (Selection.mem_disabledNames_partition.mp hoff).2 (Selection.mem_enabledNames_partition.mp hon).2
  · intro name
    rw [← Selection.mem_names_iff hs, List.mem_append, Selection.mem_enabledNames_partition,
      Selection.mem_disabledNames_partition, ← and_or_left, and_iff_left (Decidable.em _)]

/-- A catalog in which the second feature set declares gates of the first one otherwise. -/
def overlapping : Catalog := ⟨.ofList [
  ("Default", ⟨[⟨"A", [⟨"Kubelet", "1.30.0"⟩]⟩, ⟨"B", []⟩], [⟨"C", []⟩]⟩),
  ("TechPreviewNoUpgrade", ⟨[⟨"C", []⟩], [⟨"A", []⟩, ⟨"D", []⟩]⟩)]⟩

/-- Over the default set `Z` is forced on and `B` off, and the observed pre-release keeps `A` off. -/
theorem resolve_partitions_overlapping :
    ∃ p, resolve overlapping customFeatureSet (some ⟨["Z", ""], ["B"]⟩) (.ofList [("Kubelet", "1.30.0-rc.1")]) =
        .ok p ∧
      p.enabledNames = ["Z"] ∧ p.disabledNames = ["A", "B", "C", "D"] ∧
      Ascending p.enabledNames ∧ Ascending p.disabledNames ∧ (∀ name ∈ p.enabledNames, name ∉ p.disabledNames) ∧
      ∀ name, name ∈ p.enabledNames ++ p.disabledNames ↔ name ∈ overlapping.knownNames ∨
        effectiveFeatureSet customFeatureSet = customFeatureSet ∧
          (ForcedOn (some ⟨["Z", ""], ["B"]⟩) name ∨ ForcedOff (some ⟨["Z", ""], ["B"]⟩) name) := by
  have h : ∃ p, resolve overlapping customFeatureSet (some ⟨["Z", ""], ["B"]⟩)
        (.ofList [("Kubelet", "1.30.0-rc.1")]) = .ok p ∧
      p.enabledNames = ["Z"] ∧ p.disabledNames = ["A", "B", "C", "D"] := ⟨_, rfl, rfl, rfl⟩
  obtain ⟨p, hp, hon, hoff⟩ := h
  exact ⟨p, hp, hon, hoff, resolve_partitions hp⟩

/-- A gate of a resolution is on exactly when it is wanted and all requirements it carries are met; otherwise
    it is off. -/
theorem resolve_classifies (h : resolve c featureSet custom observed = .ok p) :
    ∀ g ∈ p.enabled ++ p.disabled,
      (g.name ∈ p.enabledNames ↔
        Wanted c featureSet custom g.name ∧ ∀ r ∈ g.requirements, r.Met observed) ∧
      (g.name ∈ p.disabledNames ↔
        ¬(Wanted c featureSet custom g.name ∧ ∀ r ∈ g.requirements, r.Met observed)) := by
  obtain ⟨s, hs, rfl⟩ := exists_selection_of_resolve h
  intro g hg
  have hmem := Selection.mem_gates_of_mem_partition hg
  have hname := Selection.name_mem_of_mem hmem
  have hon : s.TurnsOn observed g ↔ Wanted c featureSet custom g.name ∧ ∀ r ∈ g.requirements, r.Met observed := by
    rw [Selection.TurnsOn, Selection.wants_iff hs, Gate.Met]
  rw [Selection.mem_enabledNames_partition, Selection.mem_disabledNames_partition, ← Selection.eq_gate_of_mem hmem,
    hon]
  exact ⟨and_iff_right hname, and_iff_right hname⟩

/-- `A` is wanted by the default set, but the observed pre-release is below the required release. -/
theorem resolve_classifies_overlapping :
    ∃ p, resolve overlapping "" none (.ofList [("Kubelet", "1.30.0-rc.1")]) = .ok p ∧
      ⟨"A", [⟨"Kubelet", "1.30.0"⟩]⟩ ∈ p.enabled ++ p.disabled ∧
      p.enabledNames = ["B"] ∧ "A" ∈ p.disabledNames ∧
      ¬(Wanted overlapping "" none "A" ∧ ∀ r ∈ [(⟨"Kubelet", "1.30.0"⟩ : Requirement)],
        r.Met (.ofList [("Kubelet", "1.30.0-rc.1")])) := by
  have h : ∃ p, resolve overlapping "" none (.ofList [("Kubelet", "1.30.0-rc.1")]) = .ok p ∧
      ⟨"A", [⟨"Kubelet", "1.30.0"⟩]⟩ ∈ p.enabled ++ p.disabled ∧ p.enabledNames = ["B"] ∧ "A" ∈ p.disabledNames :=
    ⟨_, rfl, by decide, rfl, by decide⟩
  obtain ⟨p, hp, hmem, hon, hoff⟩ := h
  exact ⟨p, hp, hmem, hon, hoff, (resolve_classifies hp _ hmem).2.mp hoff⟩

end

end GateOperator
