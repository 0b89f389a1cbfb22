import GateOperator.Proofs.Files.Tree
import GateOperator.Proofs.Render.Agreement
import GateOperator.Proofs.Resolution.Failure
import Mathlib

/-!
What rendering leaves in the files. The objects are rendered in the order in which they are named, and an
object that cannot be rendered ends it. Main statement: then the files of the objects before it hold their
renderings, and every other file is as it was; a failure before the first object is rendered changes no file.
-/

namespace GateOperator

namespace Render

/-- The objects are in files, and paths to the same file come with the same object. -/
structure Loaded (files : Files.Tree) (manifests : List (String × FeatureGate)) : Prop where
  readable : ∀ m ∈ manifests, ∃ content, files.read m.1 = .ok content
  single : ∀ m ∈ manifests, ∀ n ∈ manifests, files.place m.1 = files.place n.1 → m.2 = n.2

/-- The files of these objects hold their renderings, and all others are as they were. -/
structure Rendered (c : Catalog) (version : String) (files files' : Files.Tree)
    (manifests : List (String × FeatureGate)) : Prop where
  places : ∀ path, files'.place path = files.place path
  contents : ∀ m ∈ manifests, ∃ fg, m.2.render c version = .ok fg ∧ files'.read m.1 = .ok fg.manifest.toUTF8
  others : ∀ path, (∀ m ∈ manifests, files.place m.1 ≠ files.place path) → files'.read path = files.read path

/-- How rendering objects one after the other ends. -/
inductive Ending (c : Catalog) (version : String) (files : Files.Tree) (manifests : List (String × FeatureGate)) :
    Files.Tree × Option RenderError → Prop where
  | rendered {files' : Files.Tree} (all : Rendered c version files files' manifests) :
      Ending c version files manifests (files', none)
  | unresolved {files' : Files.Tree} {before after : List (String × FeatureGate)} {path : String} {fg : FeatureGate}
      {error : ResolveError} (split : manifests = before ++ (path, fg) :: after)
      (failed : fg.render c version = .error error) (earlier : Rendered c version files files' before) :
      Ending c version files manifests (files', some (.resolve path error))

section
variable {c : Catalog} {version path : String} {files next files' : Files.Tree} {inputs : List String}
  {fg rendered : FeatureGate} {before manifests : List (String × FeatureGate)} {m : String × FeatureGate}

/-! ### Reading -/

theorem readInput_eq_some (h : readInput files path = .ok (some m)) :
    m.1 = path ∧ ∃ text, files.readText path = .ok text ∧ Manifest.read? text = some (.featureGate m.2) := by
  unfold readInput at h
  split at h
  · cases h
  · rename_i text htext
    split at h
    · cases h
    · cases h
    · rename_i fg hfg
      cases h
      exact ⟨rfl, text, htext, hfg⟩

theorem mem_readInputs (h : readInputs files inputs = .ok manifests) (hm : m ∈ manifests) :
    ∃ text, files.readText m.1 = .ok text ∧ Manifest.read? text = some (.featureGate m.2) := by
  unfold readInputs at h
  split at h
  · cases h
  · obtain ⟨read, hread, h⟩ := Except.bind_eq_ok_iff.mp h
    dsimp only at h
    split at h
    · cases h
    · cases h
      obtain ⟨_, hmem, rfl⟩ := List.mem_filterMap.mp hm
      obtain ⟨path, -, hpath⟩ := exists_of_mem_mapM hread hmem
      obtain ⟨rfl, hm⟩ := readInput_eq_some hpath
      exact hm

theorem loaded_readInputs (h : readInputs files inputs = .ok manifests) : Loaded files manifests where
  readable m hm := by
    obtain ⟨text, htext, -⟩ := mem_readInputs h hm
    obtain ⟨content, hcontent, -⟩ := Except.bind_eq_ok_iff.mp htext
    exact ⟨content, hcontent⟩
  single m hm n hn same := by
    obtain ⟨text, htext, hfg⟩ := mem_readInputs h hm
    obtain ⟨text', htext', hfg'⟩ := mem_readInputs h hn
    rw [Files.Tree.readText, Files.Tree.read_eq_of_place same, ← Files.Tree.readText, htext'] at htext
    cases htext
    simpa [hfg] using hfg'

/-! ### Rendering -/

theorem rendered_nil : Rendered c version files files [] := ⟨fun _ => rfl, List.forall_mem_nil _, fun _ _ => rfl⟩

theorem Loaded.rewritten {content : ByteArray} (loaded : Loaded files ((path, fg) :: manifests))
    (changed : Files.Tree.Rewritten files next path content) : Loaded next manifests where
  readable m hm := by
    by_cases same : files.place m.1 = files.place path
    · exact ⟨content, changed.same m.1 same⟩
    · rw [changed.others m.1 same]
      exact loaded.readable m (by simp [hm])
  single m hm n hn same := by
    rw [changed.places, changed.places] at same
    exact loaded.single m (by simp [hm]) n (by simp [hn]) same

theorem Rendered.cons (loaded : Loaded files ((path, fg) :: manifests)) (hr : fg.render c version = .ok rendered)
    (changed : Files.Tree.Rewritten files next path rendered.manifest.toUTF8) (sub : before ⊆ manifests)
    (rest : Rendered c version next files' before) : Rendered c version files files' ((path, fg) :: before) where
  places other := (rest.places other).trans (changed.places other)
  contents := by
    refine List.forall_mem_cons.mpr ⟨⟨rendered, hr, ?_⟩, rest.contents⟩
    -- A later path to the same file writes the same rendering again.
    by_cases again : ∃ n ∈ before, files.place n.1 = files.place path
    · obtain ⟨n, hn, same⟩ := again
      obtain ⟨fg', hr', hread⟩ := rest.contents n hn
      rw [← loaded.single (path, fg) (by simp) n (by simp [sub hn]) same.symm, hr] at hr'
      cases hr'
      rwa [Files.Tree.read_eq_of_place]
      rw [rest.places, rest.places, changed.places, changed.places]
      exact same.symm
    · rw [rest.others path ?_, changed.same path rfl]
      intro n hn same
      rw [changed.places, changed.places] at same
      exact again ⟨n, hn, same⟩
  others other differs := by
    obtain ⟨hpath, hbefore⟩ := List.forall_mem_cons.mp differs
    rw [rest.others other fun n hn => ?_, changed.others other hpath.symm]
    rw [changed.places, changed.places]
    exact hbefore n hn

/-- Each object is rendered in its turn, up to the first one that cannot be. -/
theorem renderAll_ending (loaded : Loaded files manifests) :
    Ending c version files manifests (renderAll c version files manifests) := by
  induction manifests generalizing files with
  | nil => exact .rendered rendered_nil
  | cons m manifests ih =>
    obtain ⟨path, fg⟩ := m
    obtain ⟨content, hcontent⟩ := loaded.readable (path, fg) (by simp)
    cases hr : fg.render c version with
    | error error =>
      have stops : renderAll c version files ((path, fg) :: manifests) = (files, some (.resolve path error)) := by
        simp only [renderAll, renderOne, hr]
      have split : (path, fg) :: manifests = [] ++ (path, fg) :: manifests := rfl
      rw [stops]
      exact .unresolved split hr rendered_nil
    | ok rendered =>
      obtain ⟨next, hwrite, changed⟩ := Files.Tree.exists_write hcontent rendered.manifest.toUTF8
      have goes : renderAll c version files ((path, fg) :: manifests) = renderAll c version next manifests := by
        simp only [renderAll, renderOne, hr, hwrite, Except.mapError]
      have later := ih (loaded.rewritten changed)
      rw [goes]
      generalize renderAll c version next manifests = result at later ⊢
      cases later with
      | rendered all => exact .rendered (all.cons loaded hr changed (List.Subset.refl _))
      | @unresolved files' before after path' fg' error split failed earlier =>
        subst split
        exact .unresolved (List.cons_append ..).symm failed
          (earlier.cons loaded hr changed (List.subset_append_left _ _))

end

/-- How carrying out a request ends. -/
inductive Outcome (files : Files.Tree) (r : RenderRequest) : Files.Tree × Except RenderError Nat → Prop where
  | unread {e : RenderError} (h : readInputs files r.inputs = .error e) : Outcome files r (files, .error e)
  | unloaded {e : RenderError} (h : catalog files r = .error e) : Outcome files r (files, .error e)
  | unresolved {files' : Files.Tree} {c : Catalog} {before after : List (String × FeatureGate)} {path : String}
      {fg : FeatureGate} {error : ResolveError} (read : readInputs files r.inputs = .ok (before ++ (path, fg) :: after))
      (loaded : catalog files r = .ok c) (failed : fg.render c r.version = .error error)
      (earlier : Rendered c r.version files files' before) : Outcome files r (files', .error (.resolve path error))
  | rendered {files' : Files.Tree} {c : Catalog} {manifests : List (String × FeatureGate)}
      (read : readInputs files r.inputs = .ok manifests) (loaded : catalog files r = .ok c)
      (all : Rendered c r.version files files' manifests) : Outcome files r (files', .ok manifests.length)

theorem run_outcome (files : Files.Tree) (r : RenderRequest) : Outcome files r (run files r) := by
  unfold run
  split
  · rename_i read
    exact .unread read
  · rename_i manifests read
    split
    · rename_i loaded
      exact .unloaded loaded
    · rename_i c loaded
      have ending : Ending c r.version files manifests _ := renderAll_ending (loaded_readInputs read)
      generalize renderAll c r.version files manifests = result at ending ⊢
      cases ending with
      | rendered all => exact .rendered read loaded all
      | unresolved split failed earlier => exact .unresolved (split ▸ read) loaded failed earlier

/-- Nothing is observed when an object is rendered, so no requirement can be in the way. -/
theorem render_eq_error_iff_least {fg : FeatureGate} {c : Catalog} {version : String} {error : ResolveError} :
    fg.render c version = .error error ↔
      (∃ gate, Names.Least (Contradicted fg.spec.featureSet fg.spec.custom) gate ∧
        error = .conflictingOverride gate) ∨
      c.Lacks fg.spec.featureSet ∧ error = .featureSetNotFound (effectiveFeatureSet fg.spec.featureSet) := by
  rw [FeatureGate.render_eq_error_iff, FeatureGateSpec.snapshot, Except.map_eq_error_iff, resolve_empty_eq_error_iff]

section
variable {files files' : Files.Tree} {r : RenderRequest} {e : RenderError}

/-- A run that fails has either changed no file or come to an object that cannot be rendered, because its custom
    selection forces a gate both ways or its feature set is not there. Then the files of the objects before it hold
    their renderings; its own file and all others are as they were. -/
theorem failed_run_keeps_unrendered (failed : run files r = (files', .error e)) :
    (files' = files ∧ (readInputs files r.inputs = .error e ∨ catalog files r = .error e)) ∨
      ∃ c before path fg after error, e = .resolve path error ∧
        readInputs files r.inputs = .ok (before ++ (path, fg) :: after) ∧ catalog files r = .ok c ∧
        ((∃ gate, Names.Least (Contradicted fg.spec.featureSet fg.spec.custom) gate ∧
            error = .conflictingOverride gate) ∨
          c.Lacks fg.spec.featureSet ∧ error = .featureSetNotFound (effectiveFeatureSet fg.spec.featureSet)) ∧
        fg.render c r.version = .error error ∧ Rendered c r.version files files' before ∧
        files'.read path = files.read path := by
  have outcome := run_outcome files r
  rw [failed] at outcome
  cases outcome with
  | unread h => exact .inl ⟨rfl, .inl h⟩
  | unloaded h => exact .inl ⟨rfl, .inr h⟩
  | @unresolved _ c before after path fg error read loaded unresolved earlier =>
    have cause := render_eq_error_iff_least.mp unresolved
    refine .inr ⟨c, before, path, fg, after, error, rfl, read, loaded, cause, unresolved, earlier, ?_⟩
    -- An earlier path to this file would come with this object, and that one was rendered.
    refine earlier.others path fun m hm same => ?_
    obtain ⟨rendered, hr, -⟩ := earlier.contents m hm
    rw [(loaded_readInputs read).single m (by simp [hm]) (path, fg) (by simp) same, unresolved] at hr
    cases hr

/-- Two manifests to render, beside a directory with the catalog, which is the first of them. -/
def payload (first second : String) : Files.Tree where
  root := .directory [("a", .file first.toUTF8), ("b", .file second.toUTF8),
    ("c", .directory [("d", .file first.toUTF8)])]

def payloadRequest : RenderRequest := ⟨["a", "b"], "c", "4.18.0", "self-managed-high-availability"⟩

/-- A manifest of the feature set that alone is in the catalog, on lines of which the last is not ended. -/
def installedText : String := "kind: FeatureGate\nmetadata:\n  name: a\nspec:\n  featureSet: Default"

/-- A manifest of a feature set that is not in the catalog. -/
def unknownText : String := "kind: FeatureGate\nmetadata:\n  name: b\nspec:\n  featureSet: X"

theorem read_payload (first second : String) : (payload first second).read "a" = .ok first.toUTF8 ∧
    (payload first second).read "b" = .ok second.toUTF8 := by
  constructor <;> cbv

theorem resolve_payload : ∃ fg fg' c rendered,
    Manifest.read? installedText = some (.featureGate fg) ∧ Manifest.read? unknownText = some (.featureGate fg') ∧
      Catalog.ofManifests "c" "4.18.0" "self-managed-high-availability" [fg] = .ok c ∧
      fg.render c "4.18.0" = .ok rendered ∧ fg'.render c "4.18.0" = .error (.featureSetNotFound "X") := by
  have evaluated : ((Manifest.read? installedText).bind fun described => described.object?.bind fun fg =>
      (Manifest.read? unknownText).bind fun described => described.object?.bind fun fg' =>
        (Catalog.ofManifests "c" "4.18.0" "self-managed-high-availability" [fg]).toOption.bind fun c =>
          (fg.render c "4.18.0").toOption.bind fun _ => Except.error? (fg'.render c "4.18.0")) =
        some (.featureSetNotFound "X") := by decide +kernel
  obtain ⟨described, hfg, evaluated⟩ := Option.bind_eq_some_iff.mp evaluated
  obtain ⟨fg, hobject, evaluated⟩ := Option.bind_eq_some_iff.mp evaluated
  obtain ⟨described', hfg', evaluated⟩ := Option.bind_eq_some_iff.mp evaluated
  obtain ⟨fg', hobject', evaluated⟩ := Option.bind_eq_some_iff.mp evaluated
  obtain ⟨c, hc, evaluated⟩ := Option.bind_eq_some_iff.mp evaluated
  obtain ⟨rendered, hr, refused⟩ := Option.bind_eq_some_iff.mp evaluated
  cases Manifest.object?_eq_some_iff.mp hobject
  cases Manifest.object?_eq_some_iff.mp hobject'
  exact ⟨fg, fg', c, rendered, hfg, hfg', Except.toOption_eq_some_iff.mp hc, Except.toOption_eq_some_iff.mp hr,
    Except.error?_eq_some_iff.mp refused⟩

theorem catalog_payload {fg : FeatureGate} {c : Catalog} (second : String) (inputs : List String)
    (hfg : Manifest.read? installedText = some (.featureGate fg))
    (hc : Catalog.ofManifests "c" "4.18.0" "self-managed-high-availability" [fg] = .ok c) :
    catalog (payload installedText second) { payloadRequest with inputs := inputs } = .ok c := by
  have hview : Files.View.ofPath (payload installedText second) "c" =
      .directory [("d", .file installedText.toUTF8)] := by
    generalize installedText = first
    cbv
  have found : Catalog.manifestFiles "c" (.ofPath (payload installedText second) "c") =
      .ok [(Files.join "c" ["d"], .ok installedText.toUTF8)] := by
    rw [hview]
    simp [Catalog.manifestFiles, Files.View.files, Files.View.inside, Files.View.collect]
  have described : Catalog.readManifest (Files.join "c" ["d"]) (.ok installedText.toUTF8) = .ok fg := by
    simp only [Catalog.readManifest, bind, Except.bind, Files.text?_toUTF8, hfg]
  simp only [catalog, payloadRequest, Catalog.load, found, List.mapM_cons, List.mapM_nil, described, hc, bind,
    Except.bind, pure, Except.pure, Except.mapError]

/-- The first manifest is written anew before the second one turns out to be of an unknown feature set. -/
theorem run_payload : ∃ files' content,
    run (payload installedText unknownText) payloadRequest =
      (files', .error (.resolve "b" (.featureSetNotFound "X"))) ∧
    (payload installedText unknownText).read "a" = .ok installedText.toUTF8 ∧
    files'.read "a" = .ok content ∧ content ≠ installedText.toUTF8 := by
  obtain ⟨fg, fg', c, rendered, hfg, hfg', hc, hr, herror⟩ := resolve_payload
  obtain ⟨ha, hb⟩ := read_payload installedText unknownText
  have read : readInputs (payload installedText unknownText) ["a", "b"] = .ok [("a", fg), ("b", fg')] := by
    have first : readInput (payload installedText unknownText) "a" = .ok (some ("a", fg)) := by
      simp only [readInput, Files.Tree.readText_of_read ha, hfg]
    have second : readInput (payload installedText unknownText) "b" = .ok (some ("b", fg')) := by
      simp only [readInput, Files.Tree.readText_of_read hb, hfg']
    simp [readInputs, first, second, bind, Except.bind, pure, Except.pure]
  obtain ⟨files', hwrite, changed⟩ := Files.Tree.exists_write ha rendered.manifest.toUTF8
  refine ⟨files', rendered.manifest.toUTF8, ?_, ha, changed.same "a" rfl, ?_⟩
  · have all : renderAll c "4.18.0" (payload installedText unknownText) [("a", fg), ("b", fg')] =
        (files', some (.resolve "b" (.featureSetNotFound "X"))) := by
      simp only [renderAll, renderOne, hr, hwrite, herror, Except.mapError]
    unfold run
    rw [show catalog _ payloadRequest = .ok c from catalog_payload unknownText ["a", "b"] hfg hc]
    simp only [payloadRequest, read, all]
  · -- A manifest that has been written ends its last line.
    intro same
    have unended : installedText.toList.getLast? = some 't' := by decide +kernel
    have ends := congrArg (·.toList.getLast?) (String.toByteArray_inj.mp same)
    simp [FeatureGate.manifest, Yaml.write, unended] at ends

theorem failed_run_keeps_unrendered_second : ∃ files',
    run (payload installedText unknownText) payloadRequest =
      (files', .error (.resolve "b" (.featureSetNotFound "X"))) ∧
    files'.read "b" = .ok unknownText.toUTF8 := by
  obtain ⟨files', content, failed, -⟩ := run_payload
  have before : (payload installedText unknownText).read "b" = .ok unknownText.toUTF8 := (read_payload _ _).2
  refine ⟨files', failed, ?_⟩
  rcases failed_run_keeps_unrendered failed with ⟨rfl, -⟩ | ⟨_, _, path, _, _, _, herror, -, -, -, -, -, kept⟩
  · exact before
  · cases herror
    exact kept.trans before

theorem failed_run_rewrites_earlier : ¬ ∀ (files files' : Files.Tree) (r : RenderRequest) (e : RenderError),
    run files r = (files', .error e) → (∀ path error, e ≠ .unwritable path error) →
      ∀ input ∈ r.inputs, files'.read input = files.read input := by
  intro kept
  obtain ⟨files', content, failed, before, after, differs⟩ := run_payload
  have same := kept _ _ _ _ failed nofun "a" (by simp [payloadRequest])
  rw [before, after] at same
  exact differs (Except.ok.inj same)

end

end Render

end GateOperator
