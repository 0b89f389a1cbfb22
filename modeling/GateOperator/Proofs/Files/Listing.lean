import GateOperator.Proofs.Files.Tree
import GateOperator.Proofs.Files.Walk
import Mathlib.Data.List.Nodup

/-!
What a walk lists of a directory tree without links: every file below the directory under the names that lead
to it, once, and in strictly ascending order of these names. In which order a directory lists its entries has
no part in it.
-/

namespace GateOperator.Files

/-- There are no links below the entry, and the names in each directory differ. -/
inductive Entry.Plain : Entry → Prop where
  | file {content : ByteArray} : Plain (.file content)
  | directory {entries : List (String × Entry)} (distinct : (entries.map (·.1)).Nodup)
      (plain : ∀ e ∈ entries, Plain e.2) : Plain (.directory entries)

/-- A path leads to a directory tree without links. -/
def Tree.Plain (t : Tree) (path : String) : Prop :=
  ∃ place entries, t.place path = .ok place ∧ t.root.at? place = some (.directory entries) ∧
    (Entry.directory entries).Plain

/-- There is a file with the content under the names, seen from where a path leads. -/
def Tree.FileAt (t : Tree) (path : String) (names : List String) (content : ByteArray) : Prop :=
  ∃ place, t.place path = .ok place ∧ t.root.at? (place ++ names) = some (.file content)

@[simp] theorem Entry.plain_file {content : ByteArray} : (Entry.file content).Plain := .file

@[simp] theorem Entry.plain_directory_iff {entries : List (String × Entry)} :
    (Entry.directory entries).Plain ↔ (entries.map (·.1)).Nodup ∧ ∀ e ∈ entries, e.2.Plain :=
  ⟨fun | .directory distinct plain => ⟨distinct, plain⟩, fun ⟨distinct, plain⟩ => .directory distinct plain⟩

theorem Entry.at?_cons_eq_some_iff {entries : List (String × Entry)} {name : String} {names : List String} {e : Entry}
    (distinct : (entries.map (·.1)).Nodup) : (Entry.directory entries).at? (name :: names) = some e ↔
      ∃ below, (name, below) ∈ entries ∧ below.at? names = some e := by
  show (entries.lookup name).bind (·.at? names) = some e ↔ _
  simp only [Option.bind_eq_some_iff, NameMap.lookup_eq_some_iff distinct]

namespace View

section
variable {root e : Entry} {entries : List (String × Entry)} {views : List (String × View)} {links : Nat}
  {place path names : List String} {read : Except FileError ByteArray} {all others : List Found}

theorem ofEntries_eq_map :
    ofEntries root links place entries = entries.map fun e => (e.1, ofEntry root links (place ++ [e.1]) e.2) := by
  induction entries with
  | nil => rw [ofEntries, List.map_nil]
  | cons e entries ih => rw [ofEntries, ih, List.map_cons]

theorem foundIn_eq_flatMap : foundIn path views = views.flatMap fun e => found (path ++ [e.1]) e.2 := by
  induction views with
  | nil => rfl
  | cons e views ih => rw [foundIn, ih, List.flatMap_cons]

theorem found_directory : found path (ofEntry root links place (.directory entries)) =
    entries.flatMap fun e => found (path ++ [e.1]) (ofEntry root links (place ++ [e.1]) e.2) := by
  rw [ofEntry, found, foundIn_eq_flatMap, ofEntries_eq_map, List.flatMap_map]

/-- What is found below an entry is what stands there, under the names that lead to it. -/
theorem mem_found_iff (plain : e.Plain) : (names, read) ∈ found path (ofEntry root links place e) ↔
    ∃ below content, names = path ++ below ∧ e.at? below = some (.file content) ∧ read = .ok content := by
  induction plain generalizing path place with
  | @file content =>
    rw [ofEntry, found, List.mem_singleton, Prod.mk.injEq]
    constructor
    · rintro ⟨rfl, rfl⟩
      exact ⟨[], content, by simp, rfl, rfl⟩
    · rintro ⟨below, content, rfl, hat, rfl⟩
      cases below with
      | nil =>
        cases hat
        simp
      | cons => cases hat
  | @directory entries distinct plain ih =>
    rw [found_directory, List.mem_flatMap]
    constructor
    · rintro ⟨e, he, h⟩
      obtain ⟨below, content, rfl, hat, rfl⟩ := (ih e he).mp h
      exact ⟨e.1 :: below, content, by simp, (Entry.at?_cons_eq_some_iff distinct).mpr ⟨e.2, he, hat⟩, rfl⟩
    · rintro ⟨below, content, rfl, hat, rfl⟩
      cases below with
      | nil => cases hat
      | cons name below =>
        obtain ⟨e, he, hat⟩ := (Entry.at?_cons_eq_some_iff distinct).mp hat
        exact ⟨(name, e), he, (ih (name, e) he).mpr ⟨below, content, by simp, hat, rfl⟩⟩

theorem nodup_found (plain : e.Plain) : ((found path (ofEntry root links place e)).map (·.1)).Nodup := by
  induction plain generalizing path place with
  | file =>
    rw [ofEntry, found]
    exact List.nodup_singleton path
  | @directory entries distinct plain ih =>
    rw [found_directory, List.map_flatMap, List.nodup_flatMap]
    -- What is found below different entries differs in the name that follows `path`.
    have apart : entries.Pairwise fun e e' => e.1 ≠ e'.1 := List.pairwise_map.mp distinct
    refine ⟨fun e he => ih e he, apart.imp_of_mem fun {e e'} he he' hne => List.disjoint_left.mpr ?_⟩
    rintro names h h'
    obtain ⟨f, hf, rfl⟩ := List.mem_map.mp h
    obtain ⟨f', hf', heq⟩ := List.mem_map.mp h'
    obtain ⟨below, _, hnames, -⟩ := (mem_found_iff (plain e he)).mp hf
    obtain ⟨below', _, hnames', -⟩ := (mem_found_iff (plain e' he')).mp hf'
    rw [hnames, hnames', List.append_assoc, List.append_assoc, List.append_cancel_left_eq] at heq
    exact hne (List.cons.inj heq).1.symm

theorem files_perm_found :
    (files (ofEntries root links place entries)).Perm (found [] (ofEntry root links place (.directory entries))) := by
  rw [ofEntry, found]
  exact files_perm_foundIn

theorem mem_files_iff (plain : (Entry.directory entries).Plain) :
    (names, read) ∈ files (ofEntries root links place entries) ↔
      ∃ content, (Entry.directory entries).at? names = some (.file content) ∧ read = .ok content := by
  rw [files_perm_found.mem_iff, mem_found_iff plain]
  simp

/-- In order, things that were found under different names are in strictly ascending order of the names. -/
theorem ascending_mergeSort (distinct : (all.map (·.1)).Nodup) :
    ((all.mergeSort inOrder).map (·.1)).Pairwise (· < ·) := by
  have distinct : ((all.mergeSort inOrder).map (·.1)).Nodup :=
    ((List.mergeSort_perm all inOrder).map _).nodup_iff.mpr distinct
  have sorted : (all.mergeSort inOrder).Pairwise fun a b => inOrder a b = true := by
    refine List.pairwise_mergeSort (fun a b c hab hbc => ?_) (fun a b => ?_) _
    · simp only [inOrder, Bool.not_eq_true', decide_eq_false_iff_not, List.not_lt] at hab hbc ⊢
      exact List.le_trans hab hbc
    · simp only [inOrder, Bool.or_eq_true, Bool.not_eq_true', decide_eq_false_iff_not, List.not_lt]
      exact List.le_total a.1 b.1
  refine List.pairwise_map.mpr (List.Pairwise.imp₂ (fun a b hle hne => ?_) sorted (List.pairwise_map.mp distinct))
  have hle : ¬b.1 < a.1 := by simpa [inOrder] using hle
  exact Decidable.byContradiction fun hlt => hne (List.le_antisymm (List.not_lt.mp hle) (List.not_lt.mp hlt))

/-- In order, things that were found under different names are the same however they were found. -/
theorem mergeSort_eq_of_perm (perm : all.Perm others) (distinct : (all.map (·.1)).Nodup) :
    all.mergeSort inOrder = others.mergeSort inOrder := by
  have ascending := ascending_mergeSort distinct
  have ascending' := ascending_mergeSort ((perm.map _).nodup_iff.mp distinct)
  refine List.Perm.eq_of_pairwise (fun a b _ _ hlt hlt' => absurd hlt' (List.lt_asymm hlt))
    (List.pairwise_map.mp ascending) (List.pairwise_map.mp ascending') ?_
  exact (List.mergeSort_perm ..).trans (perm.trans (List.mergeSort_perm ..).symm)

theorem nodup_foundIn (plain : (Entry.directory entries).Plain) :
    ((foundIn path (ofEntries root links place entries)).map (·.1)).Nodup := by
  have distinct : ((found path (ofEntry root links place (.directory entries))).map (·.1)).Nodup := nodup_found plain
  rwa [ofEntry, found] at distinct

theorem ascending_files (plain : (Entry.directory entries).Plain) :
    ((files (ofEntries root links place entries)).map (·.1)).Pairwise (· < ·) := by
  rw [files_eq_mergeSort]
  exact ascending_mergeSort (nodup_foundIn plain)

end

end View

/-- A walk through a directory tree without links lists its files, each once, in ascending order. -/
theorem Tree.Plain.exists_files {t : Tree} {path : String} (plain : t.Plain path) :
    ∃ entries, View.ofPath t path = .directory entries ∧
      (∀ names read, (names, read) ∈ View.files entries ↔ ∃ content, t.FileAt path names content ∧ read = .ok content) ∧
      ((View.files entries).map (·.1)).Pairwise (· < ·) := by
  obtain ⟨place, entries, hplace, hdirectory, plain⟩ := plain
  obtain ⟨links, hview⟩ := View.ofPath_of_place hplace hdirectory
  refine ⟨View.ofEntries t.root links place entries, by rw [hview, View.ofEntry], fun names read => ?_,
    View.ascending_files plain⟩
  rw [View.mem_files_iff plain]
  refine exists_congr fun content => and_congr_left fun _ => ?_
  constructor
  · intro h
    exact ⟨place, hplace, by rw [Entry.at?_append, hdirectory, Option.bind_some, h]⟩
  · rintro ⟨other, hother, h⟩
    cases hplace.symm.trans hother
    rwa [Entry.at?_append, hdirectory] at h

end GateOperator.Files
