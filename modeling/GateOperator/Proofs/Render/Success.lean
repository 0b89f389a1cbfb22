import GateOperator.Proofs.Files.Rewriting
import GateOperator.Proofs.Render.Agreement
import GateOperator.Proofs.Render.Inputs

/-!
Rendering that succeeds. Everything is read before the first write, so each object is rendered from what its
file held at the start, also when a path to it is given twice. Main statement: the files of the objects hold
their renderings, nothing else is changed, and neither the order of the inputs nor how often one is given
makes a difference.
-/

namespace GateOperator

namespace Render

/-- The feature gate object in the file to which a path leads. -/
def objectAt? (files : Files.Tree) (path : String) : Option FeatureGate := do
  let described ← Manifest.read? (← (files.readText path).toOption)
  described.object?

/-- The objects among the inputs, each with its path. -/
def objects (files : Files.Tree) (inputs : List String) : List (String × FeatureGate) :=
  inputs.filterMap fun path => (objectAt? files path).map fun fg => (path, fg)

section
variable {c : Catalog} {version path : String} {files next files' : Files.Tree} {inputs inputs' : List String}
  {fg : FeatureGate} {manifests more : List (String × FeatureGate)} {m : String × FeatureGate}
  {found : Option (String × FeatureGate)}

/-! ### What is read -/

theorem objectAt?_of_readText {text : String} (h : files.readText path = .ok text) :
    objectAt? files path = (Manifest.read? text).bind Manifest.object? := by
  rw [objectAt?, h]
  rfl

theorem readInput_eq_ok (h : readInput files path = .ok found) :
    found = (objectAt? files path).map fun fg => (path, fg) := by
  rw [readInput] at h
  cases htext : files.readText path with
  | error e =>
    rw [htext] at h
    cases h
  | ok text =>
    rw [htext] at h
    rw [objectAt?_of_readText htext]
    dsimp only at h
    cases hread : Manifest.read? text with
    | none =>
      rw [hread] at h
      cases h
    | some described =>
      rw [hread] at h
      cases described with
      | other | featureGate =>
        cases h
        rfl

theorem mem_objects_iff : m ∈ objects files inputs ↔ m.1 ∈ inputs ∧ objectAt? files m.1 = some m.2 := by
  rw [objects, List.mem_filterMap]
  constructor
  · rintro ⟨path, hpath, h⟩
    obtain ⟨fg, hfg, rfl⟩ := Option.map_eq_some_iff.mp h
    exact ⟨hpath, hfg⟩
  · rintro ⟨hpath, hfg⟩
    exact ⟨m.1, hpath, by rw [hfg]; rfl⟩

theorem length_objects : (objects files inputs).length = inputs.countP fun path => (objectAt? files path).isSome := by
  rw [objects, List.length_filterMap_eq_countP]
  exact List.countP_congr fun path _ => by rw [Option.isSome_map]

/-- What is read are the objects of the inputs that hold one, if every input can be read and some hold one. -/
theorem readInputs_eq_ok_iff : readInputs files inputs = .ok manifests ↔
    (∀ path ∈ inputs, ∃ found, readInput files path = .ok found) ∧
      manifests = objects files inputs ∧ manifests ≠ [] := by
  have walk {read : List (Option (String × FeatureGate))} :=
    @mapM_eq_ok_iff _ _ _ (readInput files) _ (fun path found => readInput_eq_ok) inputs read
  unfold readInputs
  split
  · rename_i none
    cases List.isEmpty_iff.mp none
    constructor
    · intro h
      cases h
    · rintro ⟨-, rfl, given⟩
      exact absurd rfl given
  · constructor
    · intro h
      obtain ⟨read, hread, h⟩ := Except.bind_eq_ok_iff.mp h
      obtain ⟨readable, rfl⟩ := walk.mp hread
      dsimp only at h
      split at h
      · cases h
      · rename_i given
        cases h
        refine ⟨readable, List.filterMap_map, fun none => given (List.isEmpty_iff.mpr none)⟩
    · rintro ⟨readable, rfl, given⟩
      refine Except.bind_eq_ok_iff.mpr ⟨_, walk.mpr ⟨readable, rfl⟩, ?_⟩
      dsimp only
      rw [List.filterMap_map]
      exact if_neg fun none => given (List.isEmpty_iff.mp none)

/-! ### Order and repetition -/

theorem Loaded.of_subset (loaded : Loaded files manifests) (sub : more ⊆ manifests) : Loaded files more where
  readable m hm := loaded.readable m (sub hm)
  single m hm n hn := loaded.single m (sub hm) n (sub hn)

theorem renderOne_eq_ok_iff : renderOne c version files path fg = .ok next ↔
    ∃ rendered, fg.render c version = .ok rendered ∧ files.write path rendered.manifest.toUTF8 = .ok next := by
  constructor
  · intro h
    unfold renderOne at h
    split at h
    · cases h
    · rename_i rendered hr
      cases hwrite : files.write path rendered.manifest.toUTF8 with
      | error =>
        rw [hwrite] at h
        cases h
      | ok next =>
        rw [hwrite] at h
        cases h
        exact ⟨rendered, hr, hwrite⟩
  · rintro ⟨rendered, hr, hwrite⟩
    rw [renderOne, hr]
    dsimp only
    rw [hwrite]
    rfl

theorem renderAll_cons_eq_iff : renderAll c version files (m :: manifests) = (files', none) ↔
    ∃ next, renderOne c version files m.1 m.2 = .ok next ∧ renderAll c version next manifests = (files', none) := by
  rw [renderAll]
  cases renderOne c version files m.1 m.2 <;> simp

theorem renderAll_append_eq_iff : renderAll c version files (manifests ++ more) = (files', none) ↔
    ∃ next, renderAll c version files manifests = (next, none) ∧ renderAll c version next more = (files', none) := by
  induction manifests generalizing files with
  | nil =>
    constructor
    · exact fun h => ⟨files, rfl, h⟩
    · rintro ⟨_, ⟨⟩, h⟩
      exact h
  | cons m manifests ih =>
    rw [List.cons_append, renderAll_cons_eq_iff]
    simp only [renderAll_cons_eq_iff, ih]
    constructor
    · rintro ⟨first, hfirst, next, hnext, hrest⟩
      exact ⟨next, ⟨first, hfirst, hnext⟩, hrest⟩
    · rintro ⟨next, ⟨first, hfirst, hnext⟩, hrest⟩
      exact ⟨first, hfirst, next, hnext, hrest⟩

/-- Rendering one object leaves the others to be rendered as they were loaded. -/
theorem Loaded.rendered (loaded : Loaded files (m :: manifests))
    (h : renderOne c version files m.1 m.2 = .ok next) : Loaded next manifests := by
  obtain ⟨rendered, -, hwrite⟩ := renderOne_eq_ok_iff.mp h
  obtain ⟨content, hcontent⟩ := loaded.readable m (by simp)
  obtain ⟨next', hwrite', changed⟩ := Files.Tree.exists_write hcontent rendered.manifest.toUTF8
  cases hwrite.symm.trans hwrite'
  exact loaded.rewritten changed

/-- Objects may be rendered in any order. -/
theorem renderAll_perm (perm : manifests.Perm more) (loaded : Loaded files manifests)
    (h : renderAll c version files manifests = (files', none)) :
    renderAll c version files more = (files', none) := by
  induction perm generalizing files with
  | nil => exact h
  | cons m _ ih =>
    obtain ⟨next, hfirst, hrest⟩ := renderAll_cons_eq_iff.mp h
    exact renderAll_cons_eq_iff.mpr ⟨next, hfirst, ih (loaded.rendered hfirst) hrest⟩
  | swap m n manifests =>
    obtain ⟨next, hfirst, hrest⟩ := renderAll_cons_eq_iff.mp h
    obtain ⟨last, hsecond, hrest⟩ := renderAll_cons_eq_iff.mp hrest
    obtain ⟨rendered, hr, hwrite⟩ := renderOne_eq_ok_iff.mp hfirst
    obtain ⟨rendered', hr', hwrite'⟩ := renderOne_eq_ok_iff.mp hsecond
    obtain ⟨content, hcontent⟩ := loaded.readable n (by simp)
    obtain ⟨content', hcontent'⟩ := loaded.readable m (by simp)
    have agree (same : files.place n.1 = files.place m.1) : rendered.manifest.toUTF8 = rendered'.manifest.toUTF8 := by
      rw [loaded.single n (by simp) m (by simp) same, hr'] at hr
      cases hr
      rfl
    have swapped := Files.Tree.write_comm hcontent hcontent' agree
    rw [Except.bind_eq_ok_iff.mpr ⟨next, hwrite, hwrite'⟩] at swapped
    obtain ⟨other, hother, hlast⟩ := Except.bind_eq_ok_iff.mp swapped.symm
    exact renderAll_cons_eq_iff.mpr ⟨other, renderOne_eq_ok_iff.mpr ⟨rendered', hr', hother⟩,
      renderAll_cons_eq_iff.mpr ⟨last, renderOne_eq_ok_iff.mpr ⟨rendered, hr, hlast⟩, hrest⟩⟩
  | trans perm _ ih ih' => exact ih' (loaded.of_subset perm.symm.subset) (ih loaded h)

theorem rendered_of_renderAll (loaded : Loaded files manifests)
    (h : renderAll c version files manifests = (files', none)) : Rendered c version files files' manifests := by
  have ending : Ending c version files manifests _ := renderAll_ending loaded
  rw [h] at ending
  cases ending with
  | rendered all => exact all

/-- Objects that have been rendered can be rendered again, and nothing changes. -/
theorem renderAll_of_rendered (all : Rendered c version files files' manifests) (sub : more ⊆ manifests) :
    renderAll c version files' more = (files', none) := by
  induction more with
  | nil => rfl
  | cons m more ih =>
    obtain ⟨hm, sub⟩ := List.cons_subset.mp sub
    obtain ⟨rendered, hr, hread⟩ := all.contents m hm
    exact renderAll_cons_eq_iff.mpr
      ⟨files', renderOne_eq_ok_iff.mpr ⟨rendered, hr, Files.Tree.write_of_read hread⟩, ih sub⟩

/-- Only which objects are rendered makes a difference, and neither their order nor how often each is. -/
theorem renderAll_congr (same : ∀ m, m ∈ manifests ↔ m ∈ more) (loaded : Loaded files manifests)
    (h : renderAll c version files manifests = (files', none)) :
    renderAll c version files more = (files', none) := by
  have both : Loaded files (manifests ++ more) :=
    loaded.of_subset (List.append_subset.mpr ⟨List.Subset.refl _, fun m hm => (same m).mpr hm⟩)
  have again := renderAll_of_rendered (rendered_of_renderAll loaded h) fun m hm => (same m).mpr hm
  have swapped := renderAll_perm List.perm_append_comm both (renderAll_append_eq_iff.mpr ⟨files', h, again⟩)
  obtain ⟨next, hmore, hrest⟩ := renderAll_append_eq_iff.mp swapped
  -- After the others, the objects themselves are in place already, so nothing was left to change.
  have all := rendered_of_renderAll (loaded.of_subset fun m hm => (same m).mpr hm) hmore
  have idle := renderAll_of_rendered all fun m hm => (same m).mp hm
  cases hrest.symm.trans idle
  exact hmore

/-- What stands at a place to which no path of the objects leads is not touched. -/
theorem nodeAt?_renderAll (loaded : Loaded files manifests)
    (h : renderAll c version files manifests = (files', none)) : files'.current = files.current ∧
      ∀ place, (∀ m ∈ manifests, files.place m.1 ≠ .ok place) →
        files'.root.nodeAt? place = files.root.nodeAt? place := by
  induction manifests generalizing files with
  | nil =>
    cases h
    exact ⟨rfl, fun _ _ => rfl⟩
  | cons m manifests ih =>
    obtain ⟨next, hfirst, hrest⟩ := renderAll_cons_eq_iff.mp h
    obtain ⟨hcurrent, hnodes⟩ := ih (loaded.rendered hfirst) hrest
    obtain ⟨rendered, -, hwrite⟩ := renderOne_eq_ok_iff.mp hfirst
    obtain ⟨content, hcontent⟩ := loaded.readable m (by simp)
    obtain ⟨written, hplace, hfile⟩ := Files.Tree.read_eq_ok_iff.mp hcontent
    cases hwrite.symm.trans (Files.Tree.write_of_place hplace hfile)
    refine ⟨hcurrent, fun place differs => ?_⟩
    obtain ⟨hm, differs⟩ := List.forall_mem_cons.mp differs
    rw [hnodes place fun n hn => ?_, Files.Entry.nodeAt?_put hfile, if_neg]
    · rintro rfl
      exact hm hplace
    · rw [Files.Tree.place_put hfile]
      exact differs n hn

end

section
variable {files files' : Files.Tree} {r : RenderRequest} {n : Nat}

theorem run_eq_ok_iff : run files r = (files', .ok n) ↔
    ∃ manifests c, readInputs files r.inputs = .ok manifests ∧ catalog files r = .ok c ∧
      renderAll c r.version files manifests = (files', none) ∧ n = manifests.length := by
  constructor
  · intro h
    unfold run at h
    split at h
    · cases h
    · rename_i manifests read
      split at h
      · cases h
      · rename_i c loaded
        split at h
        · rename_i all
          cases h
          exact ⟨manifests, c, read, loaded, all, rfl⟩
        · cases h
  · rintro ⟨manifests, c, read, loaded, all, rfl⟩
    simp only [run, read, loaded, all]

/-- Each path to an object counts, and the file of each object holds its rendering, made from what the file held
    before. What stands anywhere else is as it was. The same inputs in another order, or more often, leave the
    same tree. -/
theorem successful_run_rewrites_objects (h : run files r = (files', .ok n)) :
    n = r.inputs.countP (fun path => (objectAt? files path).isSome) ∧
    (∃ c, catalog files r = .ok c ∧ ∀ path ∈ r.inputs, ∀ fg, objectAt? files path = some fg →
      ∃ s, fg.spec.snapshot c r.version .empty = .ok s ∧
        files'.read path = .ok (FeatureGate.manifest (fg.withStatus ⟨[s], FeatureGate.conditions fg⟩)).toUTF8) ∧
    (files'.current = files.current ∧
      ∀ place, (∀ path ∈ r.inputs, (objectAt? files path).isSome → files.place path ≠ .ok place) →
        files'.root.nodeAt? place = files.root.nodeAt? place) ∧
    (∀ other, (∀ path ∈ r.inputs, (objectAt? files path).isSome → files.place path ≠ files.place other) →
      files'.read other = files.read other) ∧
    ∀ inputs, (∀ path, path ∈ inputs ↔ path ∈ r.inputs) →
      ∃ n', run files { r with inputs := inputs } = (files', .ok n') := by
  obtain ⟨manifests, c, read, loaded, all, rfl⟩ := run_eq_ok_iff.mp h
  obtain ⟨readable, rfl, given⟩ := readInputs_eq_ok_iff.mp read
  have inFiles := loaded_readInputs read
  have rendered := rendered_of_renderAll inFiles all
  refine ⟨length_objects, ⟨c, loaded, fun path hpath fg hfg => ?_⟩,
    ⟨(nodeAt?_renderAll inFiles all).1, fun place differs => ?_⟩, fun other differs => ?_, fun inputs same => ?_⟩
  · obtain ⟨fg', hr, hread⟩ := rendered.contents (path, fg) (mem_objects_iff.mpr ⟨hpath, hfg⟩)
    obtain ⟨s, resolved, rfl⟩ := FeatureGate.render_eq_ok_iff.mp hr
    exact ⟨s, resolved, hread⟩
  · refine (nodeAt?_renderAll inFiles all).2 place fun m hm => ?_
    obtain ⟨hpath, hfg⟩ := mem_objects_iff.mp hm
    exact differs m.1 hpath (Option.isSome_of_eq_some hfg)
  · refine rendered.others other fun m hm => ?_
    obtain ⟨hpath, hfg⟩ := mem_objects_iff.mp hm
    exact differs m.1 hpath (Option.isSome_of_eq_some hfg)
  · have members (m : String × FeatureGate) : m ∈ objects files r.inputs ↔ m ∈ objects files inputs := by
      rw [mem_objects_iff, mem_objects_iff, same]
    have read' : readInputs files inputs = .ok (objects files inputs) := by
      refine readInputs_eq_ok_iff.mpr ⟨fun path hpath => readable path ((same path).mp hpath), rfl, fun none => ?_⟩
      obtain ⟨m, hm⟩ := List.exists_mem_of_ne_nil _ given
      rw [members, none] at hm
      cases hm
    exact ⟨_, run_eq_ok_iff.mpr ⟨_, c, read', loaded, renderAll_congr members inFiles all, rfl⟩⟩

def namespaceText : String := "kind: Namespace\n"

/-- One manifest, named twice, and one of another kind. -/
def repeatedRequest : RenderRequest := { payloadRequest with inputs := ["a", "b", "a"] }

theorem read_namespace : Manifest.read? namespaceText = some .other := by
  have evaluated : (Manifest.read? namespaceText).map (·.object?.isSome) = some false := by decide +kernel
  obtain ⟨described, hread, hother⟩ := Option.map_eq_some_iff.mp evaluated
  cases described with
  | featureGate => cases hother
  | other => exact hread

theorem run_repeated : ∃ files' fg, run (payload installedText namespaceText) repeatedRequest = (files', .ok 2) ∧
    objectAt? (payload installedText namespaceText) "a" = some fg ∧
    objectAt? (payload installedText namespaceText) "b" = none := by
  obtain ⟨fg, -, c, rendered, hfg, -, hc, hr, -⟩ := resolve_payload
  obtain ⟨ha, hb⟩ := read_payload installedText namespaceText
  have hobject : objectAt? (payload installedText namespaceText) "a" = some fg := by
    rw [objectAt?_of_readText (Files.Tree.readText_of_read ha), hfg]
    rfl
  have hnone : objectAt? (payload installedText namespaceText) "b" = none := by
    rw [objectAt?_of_readText (Files.Tree.readText_of_read hb), read_namespace]
    rfl
  have first : readInput (payload installedText namespaceText) "a" = .ok (some ("a", fg)) := by
    simp only [readInput, Files.Tree.readText_of_read ha, hfg]
  have second : readInput (payload installedText namespaceText) "b" = .ok none := by
    simp only [readInput, Files.Tree.readText_of_read hb, read_namespace]
  have read : readInputs (payload installedText namespaceText) repeatedRequest.inputs =
      .ok [("a", fg), ("a", fg)] := by
    simp [readInputs, repeatedRequest, first, second, bind, Except.bind, pure, Except.pure]
  have loaded : catalog (payload installedText namespaceText) repeatedRequest = .ok c :=
    catalog_payload namespaceText ["a", "b", "a"] hfg hc
  obtain ⟨files', hwrite, -⟩ := Files.Tree.exists_write ha rendered.manifest.toUTF8
  have once : renderAll c "4.18.0" (payload installedText namespaceText) [("a", fg)] = (files', none) :=
    renderAll_cons_eq_iff.mpr ⟨files', renderOne_eq_ok_iff.mpr ⟨rendered, hr, hwrite⟩, rfl⟩
  have twice : renderAll c "4.18.0" (payload installedText namespaceText) [("a", fg), ("a", fg)] = (files', none) :=
    renderAll_congr (by simp) ((loaded_readInputs read).of_subset (by simp)) once
  refine ⟨files', fg, ?_, hobject, hnone⟩
  exact run_eq_ok_iff.mpr ⟨[("a", fg), ("a", fg)], c, read, loaded, twice, rfl⟩

theorem successful_run_rewrites_objects_repeated : ∃ files' fg,
    run (payload installedText namespaceText) repeatedRequest = (files', .ok 2) ∧
    objectAt? (payload installedText namespaceText) "a" = some fg ∧
    (∃ c s, catalog (payload installedText namespaceText) repeatedRequest = .ok c ∧
      fg.spec.snapshot c "4.18.0" .empty = .ok s ∧
      files'.read "a" = .ok (FeatureGate.manifest (fg.withStatus ⟨[s], FeatureGate.conditions fg⟩)).toUTF8) ∧
    files'.read "b" = .ok namespaceText.toUTF8 ∧
    ∃ n, run (payload installedText namespaceText) { repeatedRequest with inputs := ["b", "a"] } =
      (files', .ok n) := by
  obtain ⟨files', fg, h, hobject, hnone⟩ := run_repeated
  obtain ⟨-, ⟨c, loaded, contents⟩, -, others, anyway⟩ := successful_run_rewrites_objects h
  obtain ⟨s, resolved, hread⟩ := contents "a" (by simp [repeatedRequest]) fg hobject
  have differ : (payload installedText namespaceText).place "a" ≠ (payload installedText namespaceText).place "b" := by
    intro same
    have equal := Files.Tree.read_eq_of_place same
    rw [(read_payload _ _).1, (read_payload _ _).2] at equal
    exact absurd (String.toByteArray_inj.mp (Except.ok.inj equal)) (by decide +kernel)
  have untouched : files'.read "b" = .ok namespaceText.toUTF8 := by
    rw [others "b" ?_, (read_payload _ _).2]
    intro input hinput hsome
    have listed : input = "a" ∨ input = "b" := by simpa [repeatedRequest, or_comm] using hinput
    rcases listed with rfl | rfl
    · exact differ
    · rw [hnone] at hsome
      cases hsome
  refine ⟨files', fg, h, hobject, ⟨c, s, loaded, resolved, hread⟩, untouched, anyway ["b", "a"] fun path => ?_⟩
  simp only [repeatedRequest, List.mem_cons, List.not_mem_nil, or_false]
  grind

end

end Render

end GateOperator
