import GateOperator.Proofs.Files.Listing
import Mathlib.Data.String.Basic

/-!
Paths as text. The names of a path are what stands between its slashes, so names that hold no slash are read back
from the path that they were joined to. Main statement: where a path leads to a directory, the path with names joined
to it leads to the file that these names have there.
-/

namespace GateOperator.Files

/-- A name that something in a directory can have: not one that paths use for the directory itself or the one
    above, and without the slash that ends a name. -/
structure IsName (name : String) : Prop where
  nonempty : name ≠ ""
  ne_here : name ≠ "."
  ne_above : name ≠ ".."
  slash_not_mem : '/' ∉ name.toList

instance {name : String} : Decidable (IsName name) :=
  decidable_of_iff (name ≠ "" ∧ name ≠ "." ∧ name ≠ ".." ∧ '/' ∉ name.toList)
    ⟨fun ⟨nonempty, ne_here, ne_above, slash⟩ => ⟨nonempty, ne_here, ne_above, slash⟩,
      fun ⟨nonempty, ne_here, ne_above, slash⟩ => ⟨nonempty, ne_here, ne_above, slash⟩⟩

/-! ### The names of a path -/

theorem splitOnAux_slash (s : String) (b i : String.Pos.Raw) (done : List String) :
    String.splitOnAux s "/" b i 0 done = String.splitAux s (· == '/') b i done := by
  have first : String.Pos.Raw.get "/" 0 = '/' := by decide
  have after : String.Pos.Raw.next "/" 0 = ⟨1⟩ := by decide
  fun_induction String.splitAux s (· == '/') b i done with
  | case1 b i done atEnd =>
    rw [String.splitOnAux, if_pos atEnd]
  | case2 b i done more _ slash next ih =>
    have back : (String.Pos.Raw.next s i).unoffsetBy ⟨1⟩ = i := by
      rw [String.Pos.Raw.next, eq_of_beq slash]
      rfl
    rw [String.splitOnAux, if_neg more, first, if_pos slash, after]
    dsimp only
    rw [back]
    exact ih
  | case3 b i done more _ other ih =>
    rw [String.splitOnAux, if_neg more, first, if_neg other, String.Pos.Raw.unoffsetBy_zero]
    exact ih

theorem components_eq (path : String) : components path = (path.toList.splitOn '/').map String.ofList := by
  rw [components, String.splitOn, if_neg (by decide), splitOnAux_slash]
  exact String.splitToList_of_valid path (· == '/')

/-- The names of a path, without the empty one behind a slash at its end. -/
def stem (path : String) : List String := if path.endsWith "/" then (components path).dropLast else components path

section
variable {path name : String} {names : List String}

theorem endsWith_slash_iff : path.endsWith "/" = true ↔ ∃ before, before ++ ['/'] = path.toList := by
  rw [← String.endsWith_toSlice, String.Slice.endsWith_string_iff, String.copy_toSlice]
  rfl

theorem components_of_endsWith (h : path.endsWith "/" = true) : components path = stem path ++ [""] := by
  obtain ⟨before, hbefore⟩ := endsWith_slash_iff.mp h
  rw [stem, if_pos h, components_eq, ← hbefore, List.splitOn_append_cons_self]
  simp

theorem components_of_not_endsWith (h : ¬path.endsWith "/" = true) : components path = stem path := by
  rw [stem, if_neg h]

theorem join_cons : join path (name :: names) = join (join path [name]) names := rfl

/-- Behind a path a name stands after a slash, whether the path ends with one or not. -/
theorem exists_toList_join_singleton (path name : String) :
    ∃ before, (join path [name]).toList = before ++ '/' :: name.toList ∧
      (before.splitOn '/').map String.ofList = stem path := by
  by_cases h : path.endsWith "/" = true
  · obtain ⟨before, hbefore⟩ := endsWith_slash_iff.mp h
    refine ⟨before, by simp [join, h, ← hbefore], ?_⟩
    rw [stem, if_pos h, components_eq, ← hbefore, List.splitOn_append_cons_self]
    simp
  · refine ⟨path.toList, by simp [join, h], ?_⟩
    rw [stem, if_neg h, components_eq]

theorem not_endsWith_join_singleton (isName : IsName name) : ¬(join path [name]).endsWith "/" = true := fun h => by
  obtain ⟨before, hjoin, -⟩ := exists_toList_join_singleton path name
  obtain ⟨front, hfront⟩ := endsWith_slash_iff.mp h
  rcases List.eq_nil_or_concat name.toList with empty | ⟨start, last, hname⟩
  · exact isName.nonempty (String.toList_eq_nil_iff.mp empty)
  · have slash : last = '/' := by
      rw [hjoin, hname] at hfront
      have ends : front ++ ['/'] = (before ++ '/' :: start) ++ [last] := by simpa using hfront
      simpa using (List.append_inj' ends rfl).2.symm
    exact isName.slash_not_mem (by simp [hname, slash])

theorem stem_join_singleton (isName : IsName name) : stem (join path [name]) = stem path ++ [name] := by
  obtain ⟨before, hjoin, hbefore⟩ := exists_toList_join_singleton path name
  rw [← components_of_not_endsWith (not_endsWith_join_singleton isName), components_eq, hjoin,
    List.splitOn_append_cons_self, List.map_append, hbefore, List.splitOn_eq_singleton isName.slash_not_mem]
  simp

theorem stem_join (areNames : ∀ name ∈ names, IsName name) : stem (join path names) = stem path ++ names := by
  induction names generalizing path with
  | nil => rw [List.append_nil]; rfl
  | cons name names ih =>
    obtain ⟨isName, areNames⟩ := List.forall_mem_cons.mp areNames
    rw [join_cons, ih areNames, stem_join_singleton isName, List.append_assoc, List.singleton_append]

theorem not_endsWith_join (nonempty : names ≠ []) (areNames : ∀ name ∈ names, IsName name) :
    ¬(join path names).endsWith "/" = true := by
  have joined : join path names = join (join path names.dropLast) [names.getLast nonempty] := by
    conv_lhs => rw [← List.dropLast_concat_getLast nonempty]
    exact List.foldl_append ..
  rw [joined]
  exact not_endsWith_join_singleton (areNames _ (List.getLast_mem nonempty))

/-- The names that are joined to a path follow its own. -/
theorem components_join (nonempty : names ≠ []) (areNames : ∀ name ∈ names, IsName name) :
    components (join path names) = stem path ++ names := by
  rw [components_of_not_endsWith (not_endsWith_join nonempty areNames), stem_join areNames]

theorem exists_toList_join (path : String) (names : List String) :
    ∃ after, (join path names).toList = path.toList ++ after := by
  induction names generalizing path with
  | nil => exact ⟨[], (List.append_nil _).symm⟩
  | cons name names ih =>
    obtain ⟨after, hafter⟩ := ih (join path [name])
    have first : ∃ after, (join path [name]).toList = path.toList ++ after := by
      by_cases h : path.endsWith "/" = true
      · exact ⟨name.toList, by simp [join, h]⟩
      · exact ⟨'/' :: name.toList, by simp [join, h]⟩
    obtain ⟨between, hbetween⟩ := first
    exact ⟨between ++ after, by rw [join_cons, hafter, hbetween, List.append_assoc]⟩

theorem join_ne_empty (nonempty : path ≠ "") : join path names ≠ "" := fun h => by
  obtain ⟨after, hafter⟩ := exists_toList_join path names
  rw [h] at hafter
  exact nonempty (String.toList_eq_nil_iff.mp (List.append_eq_nil_iff.mp hafter.symm).1)

theorem isAbsolute_iff : isAbsolute path = true ↔ ∃ after, '/' :: after = path.toList := by
  rw [isAbsolute, String.startsWith_string_iff]
  rfl

theorem isAbsolute_join (nonempty : path ≠ "") : isAbsolute (join path names) = isAbsolute path := by
  obtain ⟨after, hafter⟩ := exists_toList_join path names
  obtain ⟨first, rest, hpath⟩ := List.exists_cons_of_ne_nil (mt String.toList_eq_nil_iff.mp nonempty)
  rw [Bool.eq_iff_iff, isAbsolute_iff, isAbsolute_iff, hafter, hpath]
  simp

end

/-! ### Where the names lead -/

namespace Tree

/-- The names that lead to the files below a path are such that something in a directory can have them. -/
def Named (t : Tree) (path : String) : Prop :=
  ∀ names content, t.FileAt path names content → ∀ name ∈ names, IsName name

section
variable {root : Entry} {t : Tree} {entries : List (String × Entry)} {links : Nat}
  {place names more : List String} {path : String} {content : ByteArray}

/-- Names lead on from where those before them lead. -/
theorem locate_append : locate root links place (names ++ more) =
    locate root links place names >>= fun m => locate root m.1 m.2 more := by
  fun_induction locate root links place names with
  | case1 => rfl
  | case2 links place name names entries here same ih =>
    rw [List.cons_append, locate, here]
    simpa only [if_pos same] using ih
  | case3 links place names entries here same ih =>
    rw [List.cons_append, locate, here]
    simpa only [if_neg same, if_true] using ih
  | case4 links place name entries here same above absent =>
    -- The last name need not be there, but nothing can be found below it.
    have nothing : root.at? (place ++ [name]) = none := (Entry.at?_concat here).trans absent
    rw [List.cons_append, locate, here]
    cases more with
    | nil => simp [same, above, absent, bind, Except.bind, locate]
    | cons => simp [same, above, absent, bind, Except.bind, locate, nothing]
  | case5 links place name names entries here same above absent nonempty =>
    rw [List.cons_append, locate, here]
    simp [same, above, absent, nonempty, bind, Except.bind]
  | case6 place name names entries here same above target found =>
    rw [List.cons_append, locate, here]
    simp [same, above, found, bind, Except.bind]
  | case7 place name names entries here same above target found links ih =>
    rw [List.cons_append, locate, here]
    simpa [same, above, found] using ih
  | case8 links place name names entries here same above e other found ih =>
    rw [List.cons_append, locate, here]
    cases e with
    | link target => exact absurd rfl (other target)
    | file | directory => simpa [same, above, found] using ih
  | case9 links place name names e other here =>
    rw [List.cons_append, locate, here]
    cases e with
    | directory entries => exact absurd rfl (other entries)
    | file | link => rfl
  | case10 links place name names absent =>
    rw [List.cons_append, locate, absent]
    rfl

/-- Names under which a file stands lead to it, and no link is met on the way. -/
theorem locate_of_at? (h : root.at? (place ++ names) = some (.file content)) (areNames : ∀ name ∈ names, IsName name) :
    locate root links place names = .ok (links, place ++ names) := by
  induction names generalizing place with
  | nil => rw [locate, List.append_nil]
  | cons name names ih =>
    obtain ⟨isName, areNames⟩ := List.forall_mem_cons.mp areNames
    have split : place ++ name :: names = (place ++ [name]) ++ names := by simp
    rw [split] at h ⊢
    -- A file can only be found through directories, so there is a directory here and no link behind the name.
    obtain ⟨below, hbelow, hfile⟩ := Option.bind_eq_some_iff.mp (Entry.at?_append.symm.trans h)
    obtain ⟨here, hhere, hname⟩ := Option.bind_eq_some_iff.mp (Entry.at?_append.symm.trans hbelow)
    rw [locate, hhere]
    cases here with
    | file | link => cases hname
    | directory entries =>
      have found : entries.lookup name = some below := (Entry.at?_concat hhere).symm.trans hbelow
      cases below with
      | link => cases names <;> cases hfile
      | file | directory =>
        simpa [isName.nonempty, isName.ne_here, isName.ne_above, found] using ih h areNames

/-- The empty name behind a slash leads nowhere else. -/
theorem eq_of_locate_empty {r : Nat × List String} (h : locate root links place [""] = .ok r) : r = (links, place) := by
  rw [locate] at h
  split at h
  · rw [if_pos (.inl rfl), locate] at h
    exact (Except.ok.inj h).symm
  · cases h
  · cases h

/-- A path leads to the same place without a slash at its end. -/
theorem exists_locate_stem (hplace : t.place path = .ok place) :
    path ≠ "" ∧ ∃ links, locate t.root linkLimit (start t.current path) (stem path) = .ok (links, place) := by
  unfold Tree.place at hplace
  split at hplace
  · cases hplace
  · rename_i nonempty
    refine ⟨nonempty, ?_⟩
    obtain ⟨⟨links, place⟩, hlocate, rfl⟩ := Except.map_eq_ok_iff.mp hplace
    by_cases slash : path.endsWith "/" = true
    · -- The empty name behind the slash is looked up last, where the others have led.
      rw [components_of_endsWith slash, locate_append, Except.bind_eq_ok_iff] at hlocate
      obtain ⟨m, hstem, hlast⟩ := hlocate
      exact ⟨m.1, by rw [hstem, eq_of_locate_empty hlast]⟩
    · exact ⟨links, by rw [← components_of_not_endsWith slash, hlocate]⟩

end

namespace Plain

section
variable {t : Tree} {path : String} {names others : List String} {content other : ByteArray}

theorem ne_nil_of_fileAt (plain : t.Plain path) (hfile : t.FileAt path names content) : names ≠ [] := by
  rintro rfl
  obtain ⟨place, entries, hplace, hdirectory, -⟩ := plain
  obtain ⟨place', hplace', hfile⟩ := hfile
  cases hplace.symm.trans hplace'
  rw [List.append_nil, hdirectory] at hfile
  cases hfile

/-- The path with a file's names joined to it reads the file. -/
theorem read_join (plain : t.Plain path) (hfile : t.FileAt path names content)
    (areNames : ∀ name ∈ names, IsName name) : t.read (join path names) = .ok content := by
  have nonempty := plain.ne_nil_of_fileAt hfile
  obtain ⟨place, hplace, hfile⟩ := hfile
  obtain ⟨hpath, links, hstem⟩ := exists_locate_stem hplace
  refine read_eq_ok_iff.mpr ⟨place ++ names, ?_, hfile⟩
  rw [Tree.place, if_neg (join_ne_empty hpath), components_join nonempty areNames, start, isAbsolute_join hpath,
    ← start, locate_append, hstem]
  simp only [bind, Except.bind, locate_of_at? hfile areNames]
  rfl

/-- The paths of files are in the order of the names that are joined to them. -/
theorem components_join_lt (plain : t.Plain path) (named : t.Named path) (hfile : t.FileAt path names content)
    (hother : t.FileAt path others other) (hlt : names < others) :
    components (join path names) < components (join path others) := by
  rw [components_join (plain.ne_nil_of_fileAt hfile) (named names content hfile),
    components_join (plain.ne_nil_of_fileAt hother) (named others other hother)]
  exact List.append_left_lt hlt

end

end Plain

end Tree

end GateOperator.Files
