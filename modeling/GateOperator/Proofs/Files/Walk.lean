import GateOperator.Files.View
import GateOperator.Proofs.Data.Traversal
import Mathlib.Data.List.Basic

/-!
The files that a walk finds. The list that is worked off holds whole directories, but what comes of it is what
a walk into each directory finds in turn; only then are the files put in order. So the contents found are those
below the directory, each as often as it stands there.
-/

namespace GateOperator.Files

/-! ### What is below a directory -/

namespace View

mutual

/-- The files below a place, each with the names that lead to it. -/
def found (path : List String) : View → List Found
  | .file content => [(path, .ok content)]
  | .unreadable error => [(path, .error error)]
  | .directory entries => foundIn path entries

def foundIn (path : List String) : List (String × View) → List Found
  | [] => []
  | (name, v) :: entries => found (path ++ [name]) v ++ foundIn path entries

end

section
variable {path : List String} {entries : List (String × View)} {pending : List (List String × View)}

theorem flatMap_found_inside : ((inside path entries).flatMap fun p => found p.1 p.2) = foundIn path entries := by
  induction entries with
  | nil => rfl
  | cons e entries ih =>
    rw [foundIn, ← ih]
    rfl

/-- Working off the list finds what is below each of its places. -/
theorem collect_eq_flatMap : collect pending = pending.flatMap fun p => found p.1 p.2 := by
  fun_induction collect pending with
  | case1 => rfl
  | case2 path content pending ih => rw [ih, List.flatMap_cons, found, List.singleton_append]
  | case3 path error pending ih => rw [ih, List.flatMap_cons, found, List.singleton_append]
  | case4 path entries pending ih => rw [ih, List.flatMap_append, flatMap_found_inside, List.flatMap_cons, found]

theorem files_eq_mergeSort : files entries = (foundIn [] entries).mergeSort inOrder := by
  rw [files, collect_eq_flatMap, flatMap_found_inside]

theorem files_perm_foundIn : (files entries).Perm (foundIn [] entries) := by
  rw [files_eq_mergeSort]
  exact List.mergeSort_perm ..

end

/-- What a file that was found says. -/
def Found.text (f : Found) : Except FileError String := f.2 >>= text?

end View

/-! ### Directories of texts -/

namespace Entry

mutual

/-- The texts of all files below an entry, if there are no links below it and its files are texts. -/
def texts? : Entry → Option (List String)
  | .file content => (text? content).toOption.map ([·])
  | .directory entries => textsIn? entries
  | .link _ => none

def textsIn? : List (String × Entry) → Option (List String)
  | [] => some []
  | (_, e) :: entries => (texts? e).bind fun texts => (textsIn? entries).map (texts ++ ·)

end

end Entry

mutual

/-- Without links below an entry, it does not matter where in a tree it stands. -/
theorem Entry.texts_found {root e : Entry} {links : Nat} {place path texts : List String}
    (h : e.texts? = some texts) :
    (View.found path (.ofEntry root links place e)).map View.Found.text = texts.map .ok := by
  cases e with
  | file content =>
    obtain ⟨text, htext, rfl⟩ := Option.map_eq_some_iff.mp h
    rw [View.ofEntry, View.found]
    exact congrArg (fun read => [read]) (Except.toOption_eq_some_iff.mp htext)
  | directory entries =>
    rw [View.ofEntry, View.found]
    exact Entry.texts_foundIn h
  | link target => cases h

theorem Entry.texts_foundIn {root : Entry} {entries : List (String × Entry)} {links : Nat}
    {place path texts : List String} (h : textsIn? entries = some texts) :
    (View.foundIn path (View.ofEntries root links place entries)).map View.Found.text = texts.map .ok := by
  cases entries with
  | nil =>
    cases h
    rw [View.ofEntries]
    rfl
  | cons e entries =>
    obtain ⟨first, hfirst, h⟩ := Option.bind_eq_some_iff.mp h
    obtain ⟨rest, hrest, rfl⟩ := Option.map_eq_some_iff.mp h
    rw [View.ofEntries, View.foundIn, List.map_append, List.map_append, Entry.texts_found hfirst,
      Entry.texts_foundIn hrest]

end

/-- A path leads to a directory without links below it, and these are the texts of the files below it. -/
def Tree.Texts (t : Tree) (path : String) (texts : List String) : Prop :=
  ∃ place entries, t.place path = .ok place ∧ t.root.at? place = some (.directory entries) ∧
    Entry.textsIn? entries = some texts

theorem View.ofPath_of_place {t : Tree} {path : String} {place : List String} {e : Entry}
    (hplace : t.place path = .ok place) (hentry : t.root.at? place = some e) :
    ∃ links, ofPath t path = ofEntry t.root links place e := by
  unfold Tree.place at hplace
  split at hplace
  · cases hplace
  · rename_i hpath
    obtain ⟨⟨links, place⟩, hlocate, rfl⟩ := Except.map_eq_ok_iff.mp hplace
    exact ⟨links, by simp only [ofPath, if_neg hpath, hlocate, hentry]⟩

/-- What a walk finds in a directory of texts is these texts, in some order. -/
theorem Tree.Texts.files {t : Tree} {path : String} {texts : List String} (h : t.Texts path texts) :
    ∃ entries, View.ofPath t path = .directory entries ∧
      ((View.files entries).map View.Found.text).Perm (texts.map .ok) := by
  obtain ⟨place, entries, hplace, hdirectory, htexts⟩ := h
  obtain ⟨links, hview⟩ := View.ofPath_of_place hplace hdirectory
  refine ⟨View.ofEntries t.root links place entries, by rw [hview, View.ofEntry], ?_⟩
  exact (View.files_perm_foundIn.map _).trans (.of_eq (Entry.texts_foundIn htexts))

end GateOperator.Files
