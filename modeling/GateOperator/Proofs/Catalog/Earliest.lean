import GateOperator.Proofs.Catalog.Faults
import GateOperator.Proofs.Catalog.Load
import GateOperator.Proofs.Files.Listing

/-!
Which fault a load reports. All files are read before a manifest is told from those of other profiles, and all of
those are gathered before the first is registered, so of several faults the kind decides before the place does.
Main statement: a load of a directory tree without links fails with the earliest file that is no manifest; if
there is none, because no manifest is meant for the profile; or else with the earliest manifest among those meant
for it that cannot be taken in after the ones before it. Earlier means smaller in the order of the names that
lead to a file, however a directory lists its entries.
-/

namespace GateOperator.Catalog

/-- The fault is there under some names, and under smaller ones there is none at all. -/
def Earliest {ε : Type} (fault : List String → ε → Prop) (e : ε) : Prop :=
  ∃ names, fault names e ∧ ∀ earlier, earlier < names → ∀ e', ¬fault earlier e'

/-- Why a content makes a file no manifest of a feature gate object. -/
inductive Misread (file : String) (content : ByteArray) : LoadError → Prop where
  | notText (undecoded : String.fromUTF8? content = none) : Misread file content (.unreadable file .notText)
  | malformed {text : String} (decoded : String.fromUTF8? content = some text)
      (unread : Manifest.read? text = none) : Misread file content (.notManifest file .malformed)
  | otherKind {text : String} (decoded : String.fromUTF8? content = some text)
      (described : Manifest.read? text = some .other) : Misread file content (.notManifest file .otherKind)

/-- The file under the names is no manifest of a feature gate object. -/
def MisreadAt (t : Files.Tree) (path : String) (names : List String) (e : LoadError) : Prop :=
  ∃ content, t.FileAt path names content ∧ Misread (Files.join path names) content e

/-- The file under the names is a manifest of the object. -/
def ManifestAt (t : Files.Tree) (path : String) (names : List String) (fg : FeatureGate) : Prop :=
  ∃ content text, t.FileAt path names content ∧ String.fromUTF8? content = some text ∧
    FeatureGate.ofText? text = some fg

/-- The file under the names is a manifest that is meant for the profile, and it brings the registration. -/
def Registers (t : Files.Tree) (path release profile : String) (names : List String) (r : Registration) : Prop :=
  ∃ fg, ManifestAt t path names fg ∧ Profile.MeantFor profile fg.metadata ∧
    effectiveFeatureSet fg.spec.featureSet = r.1 ∧ FeatureGate.Records fg release r.2

/-- Why what is registered under the names cannot be taken in. A fault of the policy counts before a name that
    is taken by what is registered under smaller names. -/
inductive RefusedAt (registers : List String → Registration → Prop) (names : List String) : CatalogError → Prop where
  | policy {r : Registration} {fault : PolicyFault} (here : registers names r) (first : r.2.FirstFault fault) :
      RefusedAt registers names (.policy r.1 fault)
  | taken {r r' : Registration} {earlier : List String} (here : registers names r) (wellFormed : r.2.WellFormed)
      (before : earlier < names) (there : registers earlier r') (same : r'.1 = r.1) :
      RefusedAt registers names (.repeatedFeatureSet r.1)

/-- Why no catalog can be loaded from below a path. -/
inductive EarliestFault (t : Files.Tree) (path release profile : String) : LoadError → Prop where
  | misread {e : LoadError} (first : Earliest (MisreadAt t path) e) : EarliestFault t path release profile e
  | noneMeant (read : ∀ names e, ¬MisreadAt t path names e)
      (others : ∀ names fg, ManifestAt t path names fg → ¬Profile.MeantFor profile fg.metadata) :
      EarliestFault t path release profile (.noManifests path)
  | refused {e : CatalogError} (read : ∀ names e, ¬MisreadAt t path names e)
      (first : Earliest (RefusedAt (Registers t path release profile)) e) :
      EarliestFault t path release profile (.catalog e)

/-- What is read of a file that was found below a path. -/
def readFound (path : String) (f : Files.View.Found) : Except LoadError FeatureGate :=
  readManifest (Files.join path f.1) f.2

/-- What the files register that were found below a path, beside the names that lead to them. -/
def placed (path release profile : String) (files : List Files.View.Found) : List (List String × Registration) :=
  files.filterMap fun f => ((readFound path f).toOption.filter fun fg => Profile.applies profile fg.metadata).map
    fun fg => (f.1, registrationOf release fg)

section
variable {α ε : Type} {items : List α} {key : α → List String} {fault : List String → ε → Prop} {Q : α → ε → Prop}
  {e : ε}

/-- Where each fault is that of one of the items, the earliest is the first of them in ascending order. -/
theorem earliest_iff (ascending : (items.map key).Pairwise (· < ·))
    (faults : ∀ names e, fault names e ↔ ∃ a ∈ items, key a = names ∧ Q a e) :
    Earliest fault e ↔ ∃ before a after, items = before ++ a :: after ∧ (∀ b ∈ before, ∀ e', ¬Q b e') ∧ Q a e := by
  have first (a : α) := Names.first_iff (a := a) (P := fun b => ∃ e', Q b e') List.lt_asymm ascending
  simp only [not_exists] at first
  constructor
  · rintro ⟨names, here, none_below⟩
    obtain ⟨a, ha, rfl, hQ⟩ := (faults names e).mp here
    obtain ⟨before, after, split, none_before⟩ := (first a).mpr ⟨ha, fun b hb hlt e' hQ' =>
      none_below _ hlt e' ((faults _ e').mpr ⟨b, hb, rfl, hQ'⟩)⟩
    exact ⟨before, a, after, split, none_before, hQ⟩
  · rintro ⟨before, a, after, split, none_before, hQ⟩
    obtain ⟨ha, none_below⟩ := (first a).mp ⟨before, after, split, none_before⟩
    refine ⟨key a, (faults _ e).mpr ⟨a, ha, rfl, hQ⟩, fun earlier hlt e' hfault => ?_⟩
    obtain ⟨b, hb, rfl, hQ'⟩ := (faults earlier e').mp hfault
    exact none_below b hb hlt e' hQ'

end

section
variable {t : Files.Tree} {path directory release profile file : String} {content : ByteArray} {fg : FeatureGate}
  {manifests : List FeatureGate} {files : List Files.View.Found} {names : List String} {r : Registration}
  {items before after : List (List String × Registration)} {p : List String × Registration}

theorem readManifest_eq_error_iff {e : LoadError} :
    readManifest file (.ok content) = .error e ↔ Misread file content e := by
  have text : (Except.ok content >>= Files.text?) = Files.text? content := rfl
  rw [readManifest, text, Files.text?]
  constructor
  · intro h
    cases decoded : String.fromUTF8? content with
    | none =>
      rw [decoded] at h
      cases h
      exact .notText decoded
    | some text =>
      rw [decoded] at h
      dsimp only at h
      split at h
      · rename_i unread
        cases h
        exact .malformed decoded unread
      · rename_i described
        cases h
        exact .otherKind decoded described
      · cases h
  · intro h
    cases h with
    | notText undecoded => rw [undecoded]
    | malformed decoded unread => simp [decoded, unread]
    | otherKind decoded described => simp [decoded, described]

theorem ofManifests_eq_error_iff {e : LoadError} : ofManifests directory release profile manifests = .error e ↔
    registrations release profile manifests = [] ∧ .noManifests directory = e ∨
      ∃ e', build (registrations release profile manifests) = .error e' ∧ .catalog e' = e := by
  unfold ofManifests registrations
  generalize manifests.filter (fun fg => Profile.applies profile fg.metadata) = applying
  cases applying with
  | nil =>
    have built : build [] = .ok empty := rfl
    simp [built]
  | cons fg applying =>
    have registered : (fg :: applying).map (registrationOf release) ≠ [] := List.cons_ne_nil _ _
    rw [or_iff_right fun h => registered h.1]
    exact Except.mapError_eq_error_iff

theorem readManifest_eq_ok_iff : readManifest file (.ok content) = .ok fg ↔
    ∃ text, String.fromUTF8? content = some text ∧ FeatureGate.ofText? text = some fg := by
  have decoded : (Except.ok content >>= Files.text?).toOption = String.fromUTF8? content := by
    show (Files.text? content).toOption = _
    unfold Files.text?
    cases String.fromUTF8? content <;> rfl
  rw [← Except.toOption_eq_some_iff, toOption_readManifest, decoded, Option.bind_eq_some_iff]

section
variable (listed : ∀ names read, (names, read) ∈ files ↔ ∃ content, t.FileAt path names content ∧ read = .ok content)

include listed in
theorem misreadAt_iff {e : LoadError} :
    MisreadAt t path names e ↔ ∃ f ∈ files, f.1 = names ∧ readFound path f = .error e := by
  constructor
  · rintro ⟨content, hfile, misread⟩
    exact ⟨_, (listed names _).mpr ⟨content, hfile, rfl⟩, rfl, readManifest_eq_error_iff.mpr misread⟩
  · rintro ⟨⟨names, read⟩, hf, rfl, h⟩
    obtain ⟨content, hfile, rfl⟩ := (listed names read).mp hf
    exact ⟨content, hfile, readManifest_eq_error_iff.mp h⟩

include listed in
theorem manifestAt_iff : ManifestAt t path names fg ↔ ∃ f ∈ files, f.1 = names ∧ readFound path f = .ok fg := by
  constructor
  · rintro ⟨content, text, hfile, h⟩
    exact ⟨_, (listed names _).mpr ⟨content, hfile, rfl⟩, rfl, readManifest_eq_ok_iff.mpr ⟨text, h⟩⟩
  · rintro ⟨⟨names, read⟩, hf, rfl, h⟩
    obtain ⟨content, hfile, rfl⟩ := (listed names read).mp hf
    obtain ⟨text, h⟩ := readManifest_eq_ok_iff.mp h
    exact ⟨content, text, hfile, h⟩

include listed in
theorem mem_placed_iff : (names, r) ∈ placed path release profile files ↔ Registers t path release profile names r := by
  simp only [placed, List.mem_filterMap, Option.map_eq_some_iff, Option.filter_eq_some_iff, Except.toOption_eq_some_iff,
    Profile.applies_iff, registrationOf, Prod.ext_iff]
  constructor
  · rintro ⟨f, hf, fg, ⟨hread, meant⟩, hnames, hset, hpolicy⟩
    exact ⟨fg, (manifestAt_iff listed).mpr ⟨f, hf, hnames, hread⟩, meant, hset, FeatureGate.records_iff.mpr hpolicy.symm⟩
  · rintro ⟨fg, manifest, meant, hset, records⟩
    obtain ⟨f, hf, hnames, hread⟩ := (manifestAt_iff listed).mp manifest
    exact ⟨f, hf, fg, ⟨hread, meant⟩, hnames, hset, (FeatureGate.records_iff.mp records).symm⟩

include listed in
theorem placed_eq_nil_iff : placed path release profile files = [] ↔
    ∀ names fg, ManifestAt t path names fg → ¬Profile.MeantFor profile fg.metadata := by
  constructor
  · intro none names fg manifest meant
    have here : Registers t path release profile names (registrationOf release fg) :=
      ⟨fg, manifest, meant, rfl, FeatureGate.records_iff.mpr rfl⟩
    rw [← mem_placed_iff listed, none] at here
    cases here
  · intro others
    refine List.eq_nil_iff_forall_not_mem.mpr fun p hp => ?_
    obtain ⟨fg, manifest, meant, -⟩ := (mem_placed_iff listed).mp hp
    exact others _ _ manifest meant

include listed in
theorem mapM_readFound_eq_ok_iff {manifests : List FeatureGate} : files.mapM (readFound path) = .ok manifests ↔
    (∀ names e, ¬MisreadAt t path names e) ∧ manifests = files.filterMap fun f => (readFound path f).toOption := by
  rw [mapM_eq_ok_iff_filterMap]
  simp only [Except.exists_eq_ok_iff, misreadAt_iff listed]
  refine and_congr_left fun _ => ⟨?_, fun h f hf e herror => h f.1 e ⟨f, hf, rfl, herror⟩⟩
  rintro h names e ⟨f, hf, -, herror⟩
  exact h f hf e herror

include listed in
theorem mapM_readFound_eq_error_iff {e : LoadError} (ascending : (files.map (·.1)).Pairwise (· < ·)) :
    files.mapM (readFound path) = .error e ↔ Earliest (MisreadAt t path) e := by
  have faults (names : List String) (e : LoadError) : MisreadAt t path names e ↔
      ∃ f ∈ files, f.1 = names ∧ readFound path f = .error e := misreadAt_iff listed
  rw [mapM_eq_error_iff, earliest_iff ascending faults]
  simp only [Except.exists_eq_ok_iff, ne_eq]

end

/-- What the files register is what their manifests do. -/
theorem map_placed : (placed path release profile files).map (·.2) =
    registrations release profile (files.filterMap fun f => (readFound path f).toOption) := by
  rw [registrations, List.filter_filterMap, List.map_filterMap, placed, List.map_filterMap]
  simp only [Option.map_map]
  rfl

theorem ascending_placed (ascending : (files.map (·.1)).Pairwise (· < ·)) :
    ((placed path release profile files).map (·.1)).Pairwise (· < ·) := by
  rw [List.pairwise_map] at ascending ⊢
  refine ascending.filterMap _ fun f f' hlt p hp p' hp' => ?_
  obtain ⟨fg, -, rfl⟩ := Option.map_eq_some_iff.mp hp
  obtain ⟨fg', -, rfl⟩ := Option.map_eq_some_iff.mp hp'
  exact hlt

section
variable (ascending : (items.map (·.1)).Pairwise (· < ·)) (split : items = before ++ p :: after)

include ascending in
theorem eq_of_mem_items (hp : p ∈ items) (h : (p.1, r) ∈ items) : r = p.2 := by
  have distinct : (items.map (·.1)).Nodup := ascending.imp fun {a b} hlt (heq : a = b) =>
    List.lt_irrefl b (heq ▸ hlt)
  exact congrArg (·.2) (List.inj_on_of_nodup_map distinct h hp rfl)

include ascending split in
theorem refusedAt_iff {e : CatalogError} :
    RefusedAt (fun names r => (names, r) ∈ items) p.1 e ↔ Refused (before.map (·.2)) p.2 e := by
  have hp : p ∈ items := by simp [split]
  have below (q : List String × Registration) : q ∈ before ↔ q ∈ items ∧ q.1 < p.1 :=
    Names.mem_before_iff List.lt_asymm ascending split
  constructor
  · intro h
    cases h with
    | policy here first =>
      obtain rfl := eq_of_mem_items ascending hp here
      exact .policy first
    | @taken r r' earlier here wellFormed hlt there same =>
      obtain rfl := eq_of_mem_items ascending hp here
      refine .taken wellFormed ?_
      rw [List.map_map, List.mem_map]
      exact ⟨_, (below (earlier, r')).mpr ⟨there, hlt⟩, same⟩
  · intro h
    cases h with
    | policy first => exact .policy hp first
    | taken wellFormed taken =>
      rw [List.map_map, List.mem_map] at taken
      obtain ⟨q, hq, same⟩ := taken
      obtain ⟨there, hlt⟩ := (below q).mp hq
      exact .taken hp wellFormed hlt there same

include ascending split in
/-- What stands before a registration is acceptable when none of it is refused. -/
theorem acceptable_before_iff :
    Acceptable (before.map (·.2)) ↔ ∀ q ∈ before, ∀ e, ¬RefusedAt (fun names r => (names, r) ∈ items) q.1 e := by
  induction before using List.reverseRecOn generalizing p after with
  | nil => exact iff_of_true ⟨by simp, List.nodup_nil⟩ (by simp)
  | append_singleton before q ih =>
    -- What may precede `q` is what stands before it in the whole list too, so its case is `refusedAt_iff` at `q`.
    have split : items = before ++ q :: p :: after := by simp [split]
    rw [List.map_append, List.map_singleton, acceptable_concat_iff, ih split, List.forall_mem_append,
      List.forall_mem_singleton]
    simp only [refusedAt_iff ascending split]

end

theorem build_eq_error_iff_earliest {e : CatalogError} (ascending : (items.map (·.1)).Pairwise (· < ·)) :
    build (items.map (·.2)) = .error e ↔ Earliest (RefusedAt fun names r => (names, r) ∈ items) e := by
  have faults (names : List String) (e : CatalogError) : RefusedAt (fun names r => (names, r) ∈ items) names e ↔
      ∃ p ∈ items, p.1 = names ∧ RefusedAt (fun names r => (names, r) ∈ items) p.1 e := by
    constructor
    · intro h
      cases h with
      | policy here first => exact ⟨_, here, rfl, .policy here first⟩
      | taken here wellFormed hlt there same => exact ⟨_, here, rfl, .taken here wellFormed hlt there same⟩
    · rintro ⟨p, -, rfl, h⟩
      exact h
  rw [build_eq_error_iff, earliest_iff ascending faults]
  constructor
  · rintro ⟨_, _, _, split, acceptable, refused⟩
    obtain ⟨before, rest, hitems, rfl, h⟩ := List.map_eq_append_iff.mp split
    obtain ⟨p, after, rfl, rfl, rfl⟩ := List.map_eq_cons_iff.mp h
    exact ⟨before, p, after, hitems, (acceptable_before_iff ascending hitems).mp acceptable,
      (refusedAt_iff ascending hitems).mpr refused⟩
  · rintro ⟨before, p, after, split, passed, refused⟩
    exact ⟨_, p.2, after.map (·.2), by simp [split], (acceptable_before_iff ascending split).mpr passed,
      (refusedAt_iff ascending split).mp refused⟩

theorem load_reports_earliest_fault (plain : t.Plain path) (release profile : String) (e : LoadError) :
    load path (.ofPath t path) release profile = .error e ↔ EarliestFault t path release profile e := by
  obtain ⟨entries, hview, listed, ascending⟩ := plain.exists_files
  have walked : load path (.ofPath t path) release profile =
      (Files.View.files entries).mapM (readFound path) >>= ofManifests path release profile := by
    rw [hview, load_of_manifestFiles rfl, List.mapM_map]
    rfl
  have built (e : CatalogError) : build (registrations release profile ((Files.View.files entries).filterMap fun f =>
      (readFound path f).toOption)) = .error e ↔ Earliest (RefusedAt (Registers t path release profile)) e := by
    rw [← map_placed, build_eq_error_iff_earliest (ascending_placed ascending)]
    simp only [mem_placed_iff listed]
  rw [walked, Except.bind_eq_error_iff, mapM_readFound_eq_error_iff listed ascending]
  simp only [mapM_readFound_eq_ok_iff listed, ofManifests_eq_error_iff]
  constructor
  · rintro (first | ⟨_, ⟨read, rfl⟩, h⟩)
    · exact .misread first
    · rcases h with ⟨none, rfl⟩ | ⟨e', h, rfl⟩
      · rw [← map_placed, List.map_eq_nil_iff, placed_eq_nil_iff listed] at none
        exact .noneMeant read none
      · exact .refused read ((built e').mp h)
  · intro h
    cases h with
    | misread first => exact .inl first
    | noneMeant read others =>
      refine .inr ⟨_, ⟨read, rfl⟩, .inl ⟨?_, rfl⟩⟩
      rw [← map_placed, List.map_eq_nil_iff, placed_eq_nil_iff listed]
      exact others
    | refused read first => exact .inr ⟨_, ⟨read, rfl⟩, .inr ⟨_, (built _).mpr first, rfl⟩⟩

/-- A manifest that switches a gate on twice. -/
def repeatingText : String :=
  "kind: FeatureGate\nmetadata:\n  name: cluster\nspec:\n  featureSet: ''\nstatus:\n  featureGates:\n" ++
    "  - version: 4.18.0\n    enabled:\n    - name: A\n    - name: A\n"

/-- A manifest of another kind. -/
def namespaceText : String := "kind: Namespace\n"

theorem plain_root_nested (deep flat : String) : (nested deep flat).root.Plain := by simp [nested]

theorem plain_nested (deep flat : String) : (nested deep flat).Plain "m" :=
  ⟨["m"], _, by cbv, rfl, by simp⟩

theorem fileAt_nested_iff {deep flat : String} : (nested deep flat).FileAt "m" names content ↔
    names = ["d", "a"] ∧ content = deep.toUTF8 ∨ names = ["b"] ∧ content = flat.toUTF8 := by
  have place : (nested deep flat).place "m" = .ok ["m"] := by cbv
  have found : ("m" :: names, .ok content) ∈ Files.View.found [] (.ofEntry (.file .empty) 0 [] (nested deep flat).root) ↔
      (nested deep flat).root.at? ("m" :: names) = some (.file content) := by
    simp [Files.View.mem_found_iff (plain_root_nested deep flat)]
  have fileAt : (nested deep flat).FileAt "m" names content ↔
      (nested deep flat).root.at? ("m" :: names) = some (.file content) := by
    simp [Files.Tree.FileAt, place]
  rw [fileAt, ← found]
  simp [nested, Files.View.ofEntry, Files.View.ofEntries, Files.View.found, Files.View.foundIn]

theorem load_reports_earliest_fault_nested :
    (nested namespaceText repeatingText).Plain "m" ∧
      (∃ fg, FeatureGate.ofText? repeatingText = some fg ∧
        (policyOf fg "4.18.0").fault? = some (.repeated "A" .enabled)) ∧
      load "m" (.ofPath (nested namespaceText repeatingText) "m") "4.18.0" Profile.selfManaged =
        .error (.notManifest "m/d/a" .otherKind) := by
  have plain := plain_nested namespaceText repeatingText
  have repeating : ((FeatureGate.ofText? repeatingText).bind fun fg => (policyOf fg "4.18.0").fault?) =
      some (.repeated "A" .enabled) := by decide +kernel
  obtain ⟨fg, hfg, fault⟩ := Option.bind_eq_some_iff.mp repeating
  have other : Manifest.read? namespaceText = some .other := by
    have described : ((Manifest.read? namespaceText).map fun described => described.object?.isNone) = some true := by
      decide +kernel
    obtain ⟨described, hdescribed, none⟩ := Option.map_eq_some_iff.mp described
    cases described with
    | featureGate => cases none
    | other => exact hdescribed
  have joined : Files.join "m" ["d", "a"] = "m/d/a" := by decide +kernel
  refine ⟨plain, ⟨fg, hfg, fault⟩, (load_reports_earliest_fault plain _ _ _).mpr (.misread ⟨["d", "a"], ?_, ?_⟩)⟩
  · exact ⟨_, fileAt_nested_iff.mpr (.inl ⟨rfl, rfl⟩), joined ▸ .otherKind Files.fromUTF8?_toUTF8 other⟩
  · rintro earlier hlt e ⟨content, hfile, misread⟩
    rcases fileAt_nested_iff.mp hfile with ⟨rfl, -⟩ | ⟨rfl, rfl⟩
    · exact List.lt_irrefl _ hlt
    · have read : readManifest (Files.join "m" ["b"]) (.ok repeatingText.toUTF8) = .ok fg :=
        readManifest_eq_ok_iff.mpr ⟨_, Files.fromUTF8?_toUTF8, hfg⟩
      cases read.symm.trans (readManifest_eq_error_iff.mpr misread)

end

end GateOperator.Catalog
