import GateOperator.Proofs.Catalog.Order
import GateOperator.Proofs.Resolution.Partition

/-!
Resolutions over rearranged registrations. What a feature set selects is the same, also when a custom
selection names its gates in another order or repeats them. Main statement: the order of declarations makes no
difference to whether there is a catalog, nor to any resolution or its error.
-/

namespace GateOperator

/-- The custom selections force the same gates on and the same gates off. -/
def SameOverrides (custom custom' : Option CustomSelection) : Prop :=
  ∀ name, (ForcedOn custom name ↔ ForcedOn custom' name) ∧ (ForcedOff custom name ↔ ForcedOff custom' name)

section
variable {c c' : Catalog} {featureSet name : String} {custom custom' : Option CustomSelection}
  {registrations registrations' : List Registration}

/-- It suffices that both lists hold the same names. -/
theorem SameOverrides.of_mem_iff {on off on' off' : List String} (hon : ∀ name, name ∈ on ↔ name ∈ on')
    (hoff : ∀ name, name ∈ off ↔ name ∈ off') : SameOverrides (some ⟨on, off⟩) (some ⟨on', off'⟩) := by
  intro name
  simp [ForcedOn, ForcedOff, hon, hoff]

theorem SameOverrides.mem_enabled (alike : SameOverrides custom custom') :
    name ∈ Selection.overrides (custom.getD ⟨[], []⟩).enabled ↔
      name ∈ Selection.overrides (custom'.getD ⟨[], []⟩).enabled := by
  rw [Selection.mem_overrides_enabled, Selection.mem_overrides_enabled, (alike name).1]

theorem SameOverrides.mem_disabled (alike : SameOverrides custom custom') :
    name ∈ Selection.overrides (custom.getD ⟨[], []⟩).disabled ↔
      name ∈ Selection.overrides (custom'.getD ⟨[], []⟩).disabled := by
  rw [Selection.mem_overrides_disabled, Selection.mem_overrides_disabled, (alike name).2]

namespace Selection

theorem ofFeatureSet_eq (h : c.Reordered c') (wf : c.WellFormed) (wf' : c'.WellFormed) :
    ofFeatureSet c featureSet = ofFeatureSet c' featureSet := by
  have hrequirements : c.requirements featureSet = c'.requirements featureSet := by
    funext gate
    exact h.requirements_eq wf wf'
  rcases h featureSet with ⟨hnone, hnone'⟩ | ⟨p, p', hp, hp', hreordered⟩
  · rw [ofFeatureSet, ofFeatureSet, hnone, hnone']
  · have hwants := Names.contains_congr fun _ => hreordered.mem_enabledNames_iff
    simp only [ofFeatureSet, hp, hp', h.knownNames_eq, hrequirements, hwants]

/-- The default set wants and requires the same in both catalogs, also where there is none. -/
theorem default_eq (h : c.Reordered c') (wf : c.WellFormed) :
    (∀ name, ((c.policy? defaultFeatureSet).getD .empty).enabledNames.contains name =
        ((c'.policy? defaultFeatureSet).getD .empty).enabledNames.contains name) ∧
      ∀ name, ((c.policy? defaultFeatureSet).getD .empty).requirements name =
        ((c'.policy? defaultFeatureSet).getD .empty).requirements name := by
  rcases h defaultFeatureSet with ⟨hnone, hnone'⟩ | ⟨p, p', hp, hp', hreordered⟩
  · rw [hnone, hnone']
    exact ⟨fun _ => rfl, fun _ => rfl⟩
  · rw [hp, hp']
    exact ⟨Names.contains_congr fun _ => hreordered.mem_enabledNames_iff,
      fun _ => hreordered.requirements_eq (wf _ p hp)⟩

theorem ofCustom_eq (h : c.Reordered c') (wf : c.WellFormed) (alike : SameOverrides custom custom') :
    ofCustom c (custom.getD ⟨[], []⟩) = ofCustom c' (custom'.getD ⟨[], []⟩) := by
  obtain ⟨hwants, hrequirements⟩ := default_eq h wf
  have hon := Names.contains_congr fun _ => alike.mem_enabled
  have hoff := Names.contains_congr fun _ => alike.mem_disabled
  have hcommon := Names.leastCommon?_congr (fun _ => alike.mem_enabled) (fun _ => alike.mem_disabled)
  have hnames : Names.ofList (c.knownNames ++ overrides (custom.getD ⟨[], []⟩).enabled ++
        overrides (custom.getD ⟨[], []⟩).disabled) =
      Names.ofList (c'.knownNames ++ overrides (custom'.getD ⟨[], []⟩).enabled ++
        overrides (custom'.getD ⟨[], []⟩).disabled) := by
    refine Names.ofList_congr fun name => ?_
    simp only [List.mem_append, h.knownNames_eq, alike.mem_enabled, alike.mem_disabled]
  simp only [Policy.requirements] at hrequirements
  simp only [ofCustom, hcommon, hnames, hon, hoff, hwants, hrequirements]

/-- Rearranged catalogs select the same. -/
theorem of_eq (h : c.Reordered c') (wf : c.WellFormed) (wf' : c'.WellFormed)
    (alike : SameOverrides custom custom') : Selection.of c featureSet custom = Selection.of c' featureSet custom' := by
  unfold Selection.of
  split
  · exact ofCustom_eq h wf alike
  · exact ofFeatureSet_eq h wf wf'

end Selection

/-- Registrations in another order, with the gates of each list in another order, make a catalog when the first
    ones do. Then all resolutions are the same, their errors included, also when a custom selection names the
    same gates in another order or more than once. -/
theorem resolve_order_irrelevant (rearranged : Rearranged registrations registrations')
    (alike : SameOverrides custom custom') :
    ((∃ c, Catalog.build registrations = .ok c) ↔ ∃ c', Catalog.build registrations' = .ok c') ∧
      ∀ c c', Catalog.build registrations = .ok c → Catalog.build registrations' = .ok c' →
        ∀ featureSet observed, resolve c featureSet custom observed = resolve c' featureSet custom' observed := by
  constructor
  · exact ⟨fun ⟨c, built⟩ => rearranged.exists_build built, fun ⟨c', built'⟩ => rearranged.symm.exists_build built'⟩
  · intro c c' built built' featureSet observed
    have hselection : Selection.of c featureSet custom = Selection.of c' featureSet custom' :=
      Selection.of_eq (rearranged.catalog built built') (Catalog.wellFormed_of_build built)
        (Catalog.wellFormed_of_build built') alike
    rw [resolve, resolve, verdicts, verdicts, hselection]

/-- Two feature sets that declare some gates alike and some otherwise. -/
def declared : List Registration := [
  ("Default", ⟨[⟨"A", [⟨"Kubelet", "1.30.0"⟩, ⟨"CRI", "1.0.0"⟩]⟩, ⟨"B", []⟩], [⟨"C", []⟩]⟩),
  ("TechPreviewNoUpgrade", ⟨[⟨"C", [⟨"CRI", "1.1.0"⟩]⟩], [⟨"A", [⟨"Kubelet", "1.29.0"⟩]⟩, ⟨"D", []⟩]⟩)]

/-- They change places, and so do `A` and `B`, and `A` and `D`. -/
def redeclared : List Registration := [
  ("TechPreviewNoUpgrade", ⟨[⟨"C", [⟨"CRI", "1.1.0"⟩]⟩], [⟨"D", []⟩, ⟨"A", [⟨"Kubelet", "1.29.0"⟩]⟩]⟩),
  ("Default", ⟨[⟨"B", []⟩, ⟨"A", [⟨"Kubelet", "1.30.0"⟩, ⟨"CRI", "1.0.0"⟩]⟩], [⟨"C", []⟩]⟩)]

theorem resolve_order_irrelevant_redeclared :
    Rearranged declared redeclared ∧ SameOverrides (some ⟨["Z", "B"], ["C"]⟩) (some ⟨["B", "Z", "Z"], ["C"]⟩) ∧
      ∃ c c', Catalog.build declared = .ok c ∧ Catalog.build redeclared = .ok c' ∧
        ∀ featureSet observed, resolve c featureSet (some ⟨["Z", "B"], ["C"]⟩) observed =
          resolve c' featureSet (some ⟨["B", "Z", "Z"], ["C"]⟩) observed := by
  have rearranged : Rearranged declared redeclared :=
    ⟨declared.reverse, .swap _ _ _, .cons ⟨rfl, .refl _, .swap _ _ _⟩ (.cons ⟨rfl, .swap _ _ _, .refl _⟩ .nil)⟩
  have alike : SameOverrides (some ⟨["Z", "B"], ["C"]⟩) (some ⟨["B", "Z", "Z"], ["C"]⟩) :=
    .of_mem_iff (fun name => by simp [or_comm]) fun name => Iff.rfl
  have hbuilt : ∃ c c', Catalog.build declared = .ok c ∧ Catalog.build redeclared = .ok c' := ⟨_, _, rfl, rfl⟩
  obtain ⟨c, c', built, built'⟩ := hbuilt
  exact ⟨rearranged, alike, c, c', built, built', (resolve_order_irrelevant rearranged alike).2 c c' built built'⟩

end

end GateOperator
