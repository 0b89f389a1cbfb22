import GateOperator.Catalog.Load
import GateOperator.Proofs.Catalog.Build
import GateOperator.Proofs.Files.Tree
import GateOperator.Proofs.Files.Walk
import Mathlib

/-!
Which directories make a catalog, and which one. Main statement: the catalog is loaded when every file is a
manifest, some manifest is meant for the profile, and those that are name different feature sets and record
well-formed policies for the release. It then holds what these record and nothing else, so neither the names
of files nor the directories they stand in have a part in it.
-/

namespace GateOperator

/-- A manifest says nothing about profiles, or it includes itself in this one. -/
def Profile.MeantFor (profile : String) (m : Metadata) : Prop :=
  (∀ annotations, m.annotations = some annotations → ∀ name ∈ annotations.names, ¬name.startsWith annotationStart) ∨
    ∃ annotations, m.annotations = some annotations ∧ annotations.find? (annotationStart ++ profile) = some included

theorem Profile.applies_iff {profile : String} {m : Metadata} : applies profile m = true ↔ MeantFor profile m := by
  unfold applies MeantFor
  cases m.annotations <;> simp

namespace FeatureGate

/-- The feature gate object of a text, if the text is its manifest. -/
def ofText? (text : String) : Option FeatureGate := Manifest.read? text >>= Manifest.object?

/-- What an object records for a release: the lists of its first snapshot of the release, or empty ones. -/
def Records (fg : FeatureGate) (release : String) (policy : Policy) : Prop :=
  (∃ before s after, snapshots fg = before ++ s :: after ∧ (∀ earlier ∈ before, earlier.version ≠ release) ∧
    s.version = release ∧ policy = ⟨s.enabled, s.disabled⟩) ∨
  (∀ s ∈ snapshots fg, s.version ≠ release) ∧ policy = ⟨[], []⟩

theorem records_iff {fg : FeatureGate} {release : String} {policy : Policy} :
    Records fg release policy ↔ policy = Catalog.policyOf fg release := by
  unfold Records Catalog.policyOf
  cases hfind : (snapshots fg).find? fun s => s.version = release with
  | none =>
    have absent : ∀ s ∈ snapshots fg, s.version ≠ release := by simpa using hfind
    constructor
    · rintro (⟨before, s, after, split, -, hs, -⟩ | ⟨-, rfl⟩)
      · exact absurd hs (absent s (by simp [split]))
      · rfl
    · exact fun h => .inr ⟨absent, h⟩
  | some s =>
    obtain ⟨hs, before, after, split, earlier⟩ := List.find?_eq_some_iff_append.mp hfind
    constructor
    · rintro (⟨before', s', after', split', earlier', hs', rfl⟩ | ⟨absent, -⟩)
      · have first : (snapshots fg).find? (fun s => s.version = release) = some s' :=
          List.find?_eq_some_iff_append.mpr ⟨decide_eq_true hs', before', after', split', by simpa using earlier'⟩
        cases hfind.symm.trans first
        rfl
      · exact absurd (of_decide_eq_true hs) (absent s (by simp [split]))
    · exact fun h => .inl ⟨before, s, after, split, by simpa using earlier, of_decide_eq_true hs, h⟩

end FeatureGate

namespace Catalog

/-- The objects can make up a catalog: some are meant for the profile, and these name different feature sets
    and record well-formed policies. -/
structure Compatible (release profile : String) (manifests : List FeatureGate) : Prop where
  meant : ∃ fg ∈ manifests, Profile.MeantFor profile fg.metadata
  distinct : manifests.Pairwise fun fg fg' =>
    Profile.MeantFor profile fg.metadata → Profile.MeantFor profile fg'.metadata →
      effectiveFeatureSet fg.spec.featureSet ≠ effectiveFeatureSet fg'.spec.featureSet
  wellFormed : ∀ fg ∈ manifests, Profile.MeantFor profile fg.metadata →
    ∀ policy, FeatureGate.Records fg release policy → policy.WellFormed

/-- The catalog has the feature sets of the objects that are meant for the profile, with what they record. -/
def Holds (c : Catalog) (release profile : String) (manifests : List FeatureGate) : Prop :=
  ∀ featureSet policy, c.policy? featureSet = some policy ↔ ∃ fg ∈ manifests,
    Profile.MeantFor profile fg.metadata ∧ effectiveFeatureSet fg.spec.featureSet = featureSet ∧
      FeatureGate.Records fg release policy

/-- What the objects that are meant for the profile register. -/
def registrations (release profile : String) (manifests : List FeatureGate) : List Registration :=
  (manifests.filter fun fg => Profile.applies profile fg.metadata).map (registrationOf release)

section
variable {release profile directory path : String} {manifests others : List FeatureGate} {c c' : Catalog}
  {content : Except Files.FileError ByteArray} {fg : FeatureGate} {t : Files.Tree} {texts : List String}

theorem Compatible.perm (h : Compatible release profile manifests) (perm : manifests.Perm others) :
    Compatible release profile others where
  meant := h.meant.imp fun _ ⟨hfg, hmeant⟩ => ⟨perm.mem_iff.mp hfg, hmeant⟩
  distinct := (perm.pairwise_iff fun hab hb ha => (hab ha hb).symm).mp h.distinct
  wellFormed fg hfg := h.wellFormed fg (perm.mem_iff.mpr hfg)

theorem Holds.perm (h : c.Holds release profile manifests) (perm : manifests.Perm others) :
    c.Holds release profile others := by
  intro featureSet policy
  rw [h featureSet policy]
  simp only [perm.mem_iff]

theorem Holds.unique (h : c.Holds release profile manifests) (h' : c'.Holds release profile manifests) : c = c' :=
  ext_policy? fun featureSet policy => (h featureSet policy).trans (h' featureSet policy).symm

theorem mem_registrations_iff {featureSet : String} {policy : Policy} :
    (featureSet, policy) ∈ registrations release profile manifests ↔ ∃ fg ∈ manifests,
      Profile.MeantFor profile fg.metadata ∧ effectiveFeatureSet fg.spec.featureSet = featureSet ∧
        FeatureGate.Records fg release policy := by
  simp only [registrations, List.mem_map, List.mem_filter, Profile.applies_iff, FeatureGate.records_iff,
    registrationOf, Prod.mk.injEq, and_assoc]
  refine exists_congr fun fg => and_congr_right fun _ => and_congr_right fun _ => and_congr_right fun _ => ?_
  exact eq_comm

theorem nodup_registrations_iff : ((registrations release profile manifests).map (·.1)).Nodup ↔
    manifests.Pairwise fun fg fg' =>
      Profile.MeantFor profile fg.metadata → Profile.MeantFor profile fg'.metadata →
        effectiveFeatureSet fg.spec.featureSet ≠ effectiveFeatureSet fg'.spec.featureSet := by
  rw [registrations, List.map_map, List.Nodup, List.pairwise_map, List.pairwise_filter]
  simp only [Profile.applies_iff]
  rfl

theorem ofManifests_eq_ok_iff_build : ofManifests directory release profile manifests = .ok c ↔
    registrations release profile manifests ≠ [] ∧ build (registrations release profile manifests) = .ok c := by
  unfold ofManifests registrations
  split
  · rename_i h
    simp [h]
  · rename_i h
    rw [Except.mapError_eq_ok_iff, ne_eq, List.map_eq_nil_iff, and_iff_right h]

theorem holds_of_build (built : build (registrations release profile manifests) = .ok c) :
    c.Holds release profile manifests := by
  intro featureSet policy
  rw [policy?_eq_some_iff_of_build built, mem_registrations_iff]

theorem exists_build_iff : (∃ c, build (registrations release profile manifests) = .ok c) ∧
    registrations release profile manifests ≠ [] ↔ Compatible release profile manifests := by
  have meant : registrations release profile manifests ≠ [] ↔
      ∃ fg ∈ manifests, Profile.MeantFor profile fg.metadata := by
    simp [registrations, Profile.applies_iff]
  constructor
  · rintro ⟨⟨c, built⟩, hsome⟩
    obtain ⟨wellFormed, distinct, -⟩ := build_eq_ok_iff.mp built
    refine ⟨meant.mp hsome, nodup_registrations_iff.mp distinct, fun fg hfg hmeant policy hrecords => ?_⟩
    exact wellFormed _ (mem_registrations_iff.mpr ⟨fg, hfg, hmeant, rfl, hrecords⟩)
  · intro compatible
    refine ⟨⟨_, build_eq_ok_iff.mpr ⟨?_, nodup_registrations_iff.mpr compatible.distinct, rfl⟩⟩,
      meant.mpr compatible.meant⟩
    intro r hr
    obtain ⟨fg, hfg, hmeant, -, hrecords⟩ := mem_registrations_iff.mp hr
    exact compatible.wellFormed fg hfg hmeant r.2 hrecords

theorem ofManifests_eq_ok_iff : ofManifests directory release profile manifests = .ok c ↔
    Compatible release profile manifests ∧ c.Holds release profile manifests := by
  rw [ofManifests_eq_ok_iff_build, ← exists_build_iff]
  constructor
  · rintro ⟨hsome, built⟩
    exact ⟨⟨⟨c, built⟩, hsome⟩, holds_of_build built⟩
  · rintro ⟨⟨⟨c', built⟩, hsome⟩, holds⟩
    exact ⟨hsome, holds.unique (holds_of_build built) ▸ built⟩

theorem exists_holds (compatible : Compatible release profile manifests) : ∃ c : Catalog, c.Holds release profile manifests := by
  obtain ⟨⟨c, built⟩, -⟩ := exists_build_iff.mpr compatible
  exact ⟨c, holds_of_build built⟩

theorem toOption_readManifest : (readManifest path content).toOption =
    (content >>= Files.text?).toOption.bind FeatureGate.ofText? := by
  unfold readManifest
  cases content >>= Files.text? with
  | error e => rfl
  | ok text =>
    show _ = Manifest.read? text >>= Manifest.object?
    dsimp only
    cases Manifest.read? text with
    | none => rfl
    | some described => cases described <;> rfl

theorem load_of_manifestFiles {v : Files.View} {files : List (String × Except Files.FileError ByteArray)}
    (h : manifestFiles path v = .ok files) : load path v release profile =
      files.mapM (fun f => readManifest f.1 f.2) >>= ofManifests path release profile := by
  rw [load, h]
  rfl

/-- The files of a directory are read as the objects of its texts, in some order. -/
theorem exists_manifestFiles (holds : t.Texts path texts) : ∃ files, manifestFiles path (.ofPath t path) = .ok files ∧
    (files.map fun f => (readManifest f.1 f.2).toOption).Perm (texts.map FeatureGate.ofText?) := by
  obtain ⟨entries, hview, hperm⟩ := holds.files
  refine ⟨_, by rw [hview]; rfl, ?_⟩
  have read := hperm.map fun text => text.toOption.bind FeatureGate.ofText?
  rw [List.map_map, List.map_map] at read
  rw [List.map_map]
  refine .trans (.of_eq (List.map_congr_left fun f _ => ?_)) read
  exact toOption_readManifest

theorem load_eq_ok_iff (holds : t.Texts path texts) : load path (.ofPath t path) release profile = .ok c ↔
    (∀ text ∈ texts, ∃ fg, FeatureGate.ofText? text = some fg) ∧
      Compatible release profile (texts.filterMap FeatureGate.ofText?) ∧
        c.Holds release profile (texts.filterMap FeatureGate.ofText?) := by
  obtain ⟨files, hfiles, hperm⟩ := exists_manifestFiles holds
  have all : (∀ f ∈ files, ∃ fg, readManifest f.1 f.2 = .ok fg) ↔
      ∀ text ∈ texts, ∃ fg, FeatureGate.ofText? text = some fg := by
    have read : (∀ o ∈ files.map fun f => (readManifest f.1 f.2).toOption, ∃ fg, o = some fg) ↔
        ∀ o ∈ texts.map FeatureGate.ofText?, ∃ fg, o = some fg := forall_congr' fun o => by rw [hperm.mem_iff]
    simpa only [List.forall_mem_map, Except.toOption_eq_some_iff] using read
  have objects : (files.filterMap fun f => (readManifest f.1 f.2).toOption).Perm
      (texts.filterMap FeatureGate.ofText?) := by
    have read := hperm.filterMap id
    rwa [List.filterMap_map, List.filterMap_map] at read
  rw [load_of_manifestFiles hfiles, Except.bind_eq_ok_iff]
  constructor
  · rintro ⟨manifests, hread, h⟩
    obtain ⟨hall, rfl⟩ := mapM_eq_ok_iff_filterMap.mp hread
    obtain ⟨compatible, held⟩ := ofManifests_eq_ok_iff.mp h
    exact ⟨all.mp hall, compatible.perm objects, held.perm objects⟩
  · rintro ⟨hall, compatible, held⟩
    refine ⟨_, mapM_eq_ok_iff_filterMap.mpr ⟨all.mpr hall, rfl⟩, ofManifests_eq_ok_iff.mpr ?_⟩
    exact ⟨compatible.perm objects.symm, held.perm objects.symm⟩

theorem load_reflects_texts (holds : t.Texts path texts) (release profile : String) :
    ((∃ c, load path (.ofPath t path) release profile = .ok c) ↔
      (∀ text ∈ texts, ∃ fg, FeatureGate.ofText? text = some fg) ∧
        Compatible release profile (texts.filterMap FeatureGate.ofText?)) ∧
    (∀ c, load path (.ofPath t path) release profile = .ok c →
      c.Holds release profile (texts.filterMap FeatureGate.ofText?)) ∧
    ∀ (t' : Files.Tree) (path' : String) (texts' : List String), t'.Texts path' texts' → texts.Perm texts' →
      ∀ c, load path (.ofPath t path) release profile = .ok c ↔ load path' (.ofPath t' path') release profile = .ok c := by
  refine ⟨⟨?_, ?_⟩, fun c h => ((load_eq_ok_iff holds).mp h).2.2, fun t' path' texts' holds' perm c => ?_⟩
  · rintro ⟨c, h⟩
    obtain ⟨all, compatible, -⟩ := (load_eq_ok_iff holds).mp h
    exact ⟨all, compatible⟩
  · rintro ⟨all, compatible⟩
    obtain ⟨c, held⟩ := exists_holds compatible
    exact ⟨c, (load_eq_ok_iff holds).mpr ⟨all, compatible, held⟩⟩
  · have objects := perm.filterMap FeatureGate.ofText?
    rw [load_eq_ok_iff holds, load_eq_ok_iff holds']
    simp only [perm.mem_iff]
    refine and_congr_right fun _ => and_congr ⟨fun h => h.perm objects, fun h => h.perm objects.symm⟩ ?_
    exact ⟨fun h => h.perm objects, fun h => h.perm objects.symm⟩

/-- A manifest of the default feature set that says nothing about profiles. It records two releases. -/
def plainText : String :=
  "kind: FeatureGate\nmetadata:\n  name: cluster\nspec:\n  featureSet: ''\nstatus:\n  featureGates:\n" ++
    "  - version: 4.17.0\n  - version: 4.18.0\n    enabled:\n    - name: A\n"

/-- A manifest of the same feature set for clusters whose control plane runs elsewhere. -/
def externalText : String :=
  "kind: FeatureGate\nmetadata:\n  annotations:\n    include.release.openshift.io/ibm-cloud-managed: " ++
    "false-except-for-the-config-operator\nspec:\n  featureSet: Default\n"

/-- Two texts in a directory, one of them deeper than the other. -/
def nested (deep flat : String) : Files.Tree where
  root := .directory [("m", .directory [("d", .directory [("a", .file deep.toUTF8)]),
    ("e", .directory []), ("b", .file flat.toUTF8)])]

/-- Two texts side by side. -/
def sideBySide (left right : String) : Files.Tree where
  root := .directory [("n", .directory [("x", .file left.toUTF8), ("y", .file right.toUTF8)])]

theorem texts_nested (deep flat : String) : (nested deep flat).Texts "m" [deep, flat] := by
  refine ⟨["m"], _, by cbv, rfl, ?_⟩
  simp only [Files.Entry.textsIn?, Files.Entry.texts?, Files.text?_toUTF8, Except.toOption]
  rfl

theorem texts_sideBySide (left right : String) : (sideBySide left right).Texts "n" [left, right] := by
  refine ⟨["n"], _, by cbv, rfl, ?_⟩
  simp only [Files.Entry.textsIn?, Files.Entry.texts?, Files.text?_toUTF8, Except.toOption]
  rfl

theorem ofManifests_nested : ∃ external plain c,
    FeatureGate.ofText? externalText = some external ∧ FeatureGate.ofText? plainText = some plain ∧
      ofManifests "m" "4.18.0" Profile.selfManaged [external, plain] = .ok c ∧
      c.policy? "Default" = some ⟨[⟨"A", []⟩], []⟩ := by
  have evaluated : ((FeatureGate.ofText? externalText).bind fun external =>
      (FeatureGate.ofText? plainText).bind fun plain =>
        (ofManifests "m" "4.18.0" Profile.selfManaged [external, plain]).toOption.bind fun c =>
          c.policy? "Default") = some ⟨[⟨"A", []⟩], []⟩ := by decide +kernel
  obtain ⟨external, hexternal, evaluated⟩ := Option.bind_eq_some_iff.mp evaluated
  obtain ⟨plain, hplain, evaluated⟩ := Option.bind_eq_some_iff.mp evaluated
  obtain ⟨c, hc, evaluated⟩ := Option.bind_eq_some_iff.mp evaluated
  exact ⟨external, plain, c, hexternal, hplain, Except.toOption_eq_some_iff.mp hc, evaluated⟩

theorem load_reflects_texts_nested : (nested externalText plainText).Texts "m" [externalText, plainText] ∧
    (sideBySide plainText externalText).Texts "n" [plainText, externalText] ∧
    ∃ c, load "m" (.ofPath (nested externalText plainText) "m") "4.18.0" Profile.selfManaged = .ok c ∧
      load "n" (.ofPath (sideBySide plainText externalText) "n") "4.18.0" Profile.selfManaged = .ok c ∧
      c.policy? "Default" = some ⟨[⟨"A", []⟩], []⟩ := by
  obtain ⟨external, plain, c, hexternal, hplain, hc, hpolicy⟩ := ofManifests_nested
  have objects : [externalText, plainText].filterMap FeatureGate.ofText? = [external, plain] := by
    simp [hexternal, hplain]
  obtain ⟨compatible, held⟩ := ofManifests_eq_ok_iff.mp hc
  have nested := texts_nested externalText plainText
  have sideBySide := texts_sideBySide plainText externalText
  obtain ⟨loads, holds, alike⟩ := load_reflects_texts nested "4.18.0" Profile.selfManaged
  rw [objects] at loads holds
  obtain ⟨c', hc'⟩ := loads.mpr ⟨by simp [hexternal, hplain], compatible⟩
  have same : c' = c := (holds c' hc').unique held
  subst same
  exact ⟨nested, sideBySide, c', hc', (alike _ _ _ sideBySide (.swap ..) c').mp hc', hpolicy⟩

end

end Catalog

end GateOperator
