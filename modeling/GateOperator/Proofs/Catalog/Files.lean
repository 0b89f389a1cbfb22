import GateOperator.Catalog.Load
import GateOperator.Proofs.Files.Path
import GateOperator.Proofs.Files.Rounds

/-!
Which files below a directory are taken for manifests. Main statement: all of them and nothing else, each once and
under a path that reads it, in the order of the names in their paths. This holds of a directory tree without links,
however deep, and whichever way the walk through it takes.
-/

namespace GateOperator.Catalog

open Files (View join components)

/-- The list has the files below a directory with their paths. -/
structure Listed (t : Files.Tree) (directory : String) (files : List (String × Except Files.FileError ByteArray)) :
    Prop where
  /-- Every file is in the list. -/
  complete : ∀ names content, t.FileAt directory names content → (join directory names, .ok content) ∈ files
  /-- Whatever is in the list is a file, and its path leads to it. -/
  sound : ∀ f ∈ files, ∃ names content, t.FileAt directory names content ∧ f = (join directory names, .ok content) ∧
    t.read f.1 = .ok content
  nodup : (files.map (·.1)).Nodup
  ascending : (files.map fun f => components f.1).Pairwise (· < ·)

section
variable {t : Files.Tree} {directory : String} {entries : List (String × View)}

theorem listed_files (plain : t.Plain directory) (named : t.Named directory)
    (listed : ∀ names read, (names, read) ∈ View.files entries ↔
      ∃ content, t.FileAt directory names content ∧ read = .ok content)
    (ascending : ((View.files entries).map (·.1)).Pairwise (· < ·)) :
    Listed t directory ((View.files entries).map fun f => (join directory f.1, f.2)) := by
  have ordered : (((View.files entries).map fun f => (join directory f.1, f.2)).map
      fun f => components f.1).Pairwise (· < ·) := by
    rw [List.map_map]
    refine List.pairwise_map.mpr ((List.pairwise_map.mp ascending).imp_of_mem fun {f g} hf hg hlt => ?_)
    obtain ⟨content, hfile, -⟩ := (listed f.1 f.2).mp hf
    obtain ⟨other, hother, -⟩ := (listed g.1 g.2).mp hg
    exact plain.components_join_lt named hfile hother hlt
  refine ⟨fun names content hfile => ?_, fun f hf => ?_, ?_, ordered⟩
  · exact List.mem_map.mpr ⟨(names, .ok content), (listed names (.ok content)).mpr ⟨content, hfile, rfl⟩, rfl⟩
  · obtain ⟨⟨names, read⟩, hmem, rfl⟩ := List.mem_map.mp hf
    obtain ⟨content, hfile, rfl⟩ := (listed names read).mp hmem
    exact ⟨names, content, hfile, rfl, plain.read_join hfile (named names content hfile)⟩
  · refine List.Nodup.of_map components ?_
    rw [List.map_map]
    exact ordered.nodup

/-- The files below a directory are all listed, and nothing else is. A walk ends with them after a round for each
    directory, whichever directory it takes next and in whatever order the entries are listed to it. -/
theorem manifestFiles_lists_every_file (plain : t.Plain directory) (named : t.Named directory) :
    ∃ entries files, View.ofPath t directory = .directory entries ∧
      manifestFiles directory (.ofPath t directory) = .ok files ∧ Listed t directory files ∧
      ∀ n w, View.Walk.Rounds n (.start entries) w →
        n ≤ (View.directory entries).directories ∧
        ((∀ next, ¬w.Round next) ↔ n = (View.directory entries).directories) ∧
        ((∀ next, ¬w.Round next) →
          files = (w.found.mergeSort View.inOrder).map fun f => (join directory f.1, f.2)) := by
  obtain ⟨entries, hview, listed, ascending⟩ := plain.exists_files
  have distinct : ((View.foundIn [] entries).map (·.1)).Nodup :=
    (View.files_perm_foundIn.map _).nodup_iff.mp ascending.nodup
  refine ⟨entries, _, hview, by rw [hview]; rfl, listed_files plain named listed ascending, fun n w walk => ?_⟩
  obtain ⟨bound, ended_iff⟩ := walk.ended_iff
  exact ⟨bound, ended_iff, fun ended => by rw [walk.files_eq ended distinct]⟩

/-- Manifests that are listed in no order, beside a directory with one more and an empty one. -/
def scattered : Files.Tree where
  root := .directory [("m", .directory [("d.x", .file .empty),
    ("d", .directory [("e", .directory []), ("a", .file .empty)]), ("b", .file .empty)])]

theorem view_scattered : View.ofPath scattered "m" = .directory [("d.x", .file .empty),
    ("d", .directory [("e", .directory []), ("a", .file .empty)]), ("b", .file .empty)] := by
  cbv

theorem plain_scattered : scattered.Plain "m" :=
  ⟨["m"], _, by cbv, rfl, by simp⟩

theorem named_scattered : scattered.Named "m" := fun names content hfile => by
  obtain ⟨entries, hview, listed, -⟩ := plain_scattered.exists_files
  cases view_scattered.symm.trans hview
  have mem := (listed names (.ok content)).mpr ⟨content, hfile, rfl⟩
  rw [View.files_perm_foundIn.mem_iff] at mem
  have areNames : ∀ names ∈ (View.foundIn [] [("d.x", .file .empty),
      ("d", .directory [("e", .directory []), ("a", .file .empty)]), ("b", .file .empty)]).map (·.1),
        ∀ name ∈ names, Files.IsName name := by decide
  exact areNames names (List.mem_map_of_mem mem)

theorem manifestFiles_lists_every_file_scattered : scattered.Plain "m" ∧ scattered.Named "m" ∧
    ∃ entries files, View.ofPath scattered "m" = .directory entries ∧
      manifestFiles "m" (.ofPath scattered "m") = .ok files ∧ files.map (·.1) = ["m/b", "m/d/a", "m/d.x"] ∧
      ∀ n w, View.Walk.Rounds n (.start entries) w → ((∀ next, ¬w.Round next) ↔ n = 3) := by
  obtain ⟨entries, files, hview, hfiles, -, walks⟩ := manifestFiles_lists_every_file plain_scattered named_scattered
  have paths : (manifestFiles "m" (.ofPath scattered "m")).toOption.map (·.map (·.1)) =
      some ["m/b", "m/d/a", "m/d.x"] := by
    rw [view_scattered]
    cbv
  rw [hfiles] at paths
  cases view_scattered.symm.trans hview
  exact ⟨plain_scattered, named_scattered, _, files, hview, hfiles, Option.some.inj paths,
    fun n w walk => (walks n w walk).2.1⟩

end

end GateOperator.Catalog
