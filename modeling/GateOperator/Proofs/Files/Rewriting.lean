import GateOperator.Proofs.Files.Tree

/-!
New contents for files that are there. Writing what a file already holds leaves the tree as it is, and writes
to different files can be made in either order: the tree is the same afterwards, to the order of its entries.
-/

namespace GateOperator.Files

namespace Entry

section
variable {root e e' : Entry} {entries : List (String × Entry)} {place other : List String} {name name' : String}
  {old old' content content' : ByteArray}

theorem putEntry_of_lookup (h : entries.lookup name = some e) : putEntry name e entries = entries := by
  induction entries with
  | nil => cases h
  | cons first entries ih =>
    obtain ⟨n, v⟩ := first
    rw [NameMap.lookup_cons_eq] at h
    rw [putEntry]
    by_cases hn : n = name
    · subst hn
      rw [if_pos rfl] at h
      cases h
      rw [if_pos rfl]
    · rw [if_neg (Ne.symm hn)] at h
      rw [if_neg hn, ih h]

theorem putEntry_putEntry : putEntry name e (putEntry name e' entries) = putEntry name e entries := by
  induction entries with
  | nil => simp [putEntry]
  | cons first entries ih =>
    obtain ⟨n, v⟩ := first
    by_cases hn : n = name
    · simp only [putEntry, hn, if_true]
    · simp only [putEntry, hn, if_false, ih]

/-- Entries under different names that are there already can be replaced in either order. -/
theorem putEntry_comm (differ : name ≠ name') (h : (entries.lookup name).isSome) (h' : (entries.lookup name').isSome) :
    putEntry name e (putEntry name' e' entries) = putEntry name' e' (putEntry name e entries) := by
  induction entries with
  | nil => cases h
  | cons first entries ih =>
    obtain ⟨n, v⟩ := first
    by_cases hn : n = name
    · subst hn
      simp only [putEntry, differ, if_true, if_false]
    · by_cases hn' : n = name'
      · subst hn'
        simp only [putEntry, hn, if_true, if_false]
      · rw [NameMap.lookup_cons_eq, if_neg (Ne.symm hn)] at h
        rw [NameMap.lookup_cons_eq, if_neg (Ne.symm hn')] at h'
        simp only [putEntry, hn, hn', if_false, ih h h']

theorem nodeAt?_eq_file_iff : root.nodeAt? place = some (.file content) ↔ root.at? place = some (.file content) := by
  rw [nodeAt?, Option.map_eq_some_iff]
  constructor
  · rintro ⟨e, he, hnode⟩
    cases e <;> cases hnode
    exact he
  · exact fun h => ⟨_, h, rfl⟩

theorem put_of_at? (h : root.at? place = some e) : put e place root = root := by
  induction place generalizing root with
  | nil =>
    cases h
    rfl
  | cons n place ih =>
    cases root with
    | file | link => cases h
    | directory entries =>
      obtain ⟨below, hbelow, h⟩ := Option.bind_eq_some_iff.mp h
      simp only [put, hbelow, ih h, putEntry_of_lookup hbelow]

/-- Files at different places can be replaced in either order. -/
theorem put_comm (differ : place ≠ other) (h : root.at? place = some (.file old))
    (h' : root.at? other = some (.file old')) :
    put (.file content) place (put (.file content') other root) =
      put (.file content') other (put (.file content) place root) := by
  induction place generalizing root other with
  | nil =>
    cases h
    cases other with
    | nil => exact absurd rfl differ
    | cons => cases h'
  | cons n place ih =>
    cases root with
    | file | link => cases h
    | directory entries =>
      cases other with
      | nil => cases h'
      | cons m other =>
        obtain ⟨e, he, hbelow⟩ := Option.bind_eq_some_iff.mp h
        obtain ⟨e', he', hbelow'⟩ := Option.bind_eq_some_iff.mp h'
        -- The places part in this directory, or further down in the one that both lead to.
        by_cases hm : m = n
        · subst hm
          cases he.symm.trans he'
          have below := ih (fun same => differ (by rw [same])) hbelow hbelow'
          simp only [put, he, lookup_putEntry, if_true, putEntry_putEntry, below]
        · have swap := @putEntry_comm (put (.file content) place e) (put (.file content') other e') entries n m
            (Ne.symm hm) (by rw [he]; rfl) (by rw [he']; rfl)
          simp only [put, he, he', lookup_putEntry, hm, Ne.symm hm, if_false, swap]

end

end Entry

namespace Tree

section
variable {t next next' : Tree} {path other : String} {place : List String} {old content content' : ByteArray}

theorem write_of_read (h : t.read path = .ok content) : t.write path content = .ok t := by
  obtain ⟨place, hplace, hfile⟩ := read_eq_ok_iff.mp h
  rw [write_of_place hplace hfile, Entry.put_of_at? hfile]

/-- Files can be written in either order. Two paths may lead to the same file, if its content is the same. -/
theorem write_comm (h : t.read path = .ok old) (h' : t.read other = .ok old')
    (agree : t.place path = t.place other → content = content') :
    (t.write path content >>= fun next => next.write other content') =
      t.write other content' >>= fun next => next.write path content := by
  obtain ⟨p, hplace, hfile⟩ := read_eq_ok_iff.mp h
  obtain ⟨q, hplace', hfile'⟩ := read_eq_ok_iff.mp h'
  have kept := (place_put hfile content other).trans hplace'
  have kept' := (place_put hfile' content' path).trans hplace
  rw [write_of_place hplace hfile, write_of_place hplace' hfile']
  by_cases same : p = q
  · subst same
    cases agree (hplace.trans hplace'.symm)
    have again : (Entry.put (.file content) p t.root).at? p = some (.file content) :=
      Entry.nodeAt?_eq_file_iff.mp (by rw [Entry.nodeAt?_put hfile, if_pos rfl])
    exact (write_of_place kept again).trans (write_of_place kept' again).symm
  · have again : (Entry.put (.file content) p t.root).at? q = some (.file old') :=
      Entry.nodeAt?_eq_file_iff.mp (by
        rw [Entry.nodeAt?_put hfile, if_neg (Ne.symm same), Entry.nodeAt?_eq_file_iff.mpr hfile'])
    have again' : (Entry.put (.file content') q t.root).at? p = some (.file old) :=
      Entry.nodeAt?_eq_file_iff.mp (by
        rw [Entry.nodeAt?_put hfile', if_neg same, Entry.nodeAt?_eq_file_iff.mpr hfile])
    refine (write_of_place kept again).trans (.trans ?_ (write_of_place kept' again').symm)
    rw [Entry.put_comm (Ne.symm same) hfile' hfile]

end

end Tree

end GateOperator.Files
