import GateOperator.Data.Names

/-!
Finite maps from names, held as their entries in ascending order of name. Two maps with the same
look-ups are equal.
-/

namespace GateOperator

/-- Entries under distinct names, in ascending order of name. -/
structure NameMap (α : Type) where
  entries : List (String × α)
  ascending : Ascending (entries.map (·.1))

namespace NameMap

variable {α : Type}

/-- Puts a value under a name, in place of the one that was there. -/
def insertEntry (name : String) (value : α) : List (String × α) → List (String × α)
  | [] => [(name, value)]
  | (other, old) :: rest =>
    if name < other then (name, value) :: (other, old) :: rest
    else if name = other then (name, value) :: rest
    else (other, old) :: insertEntry name value rest

section
variable {name other : String} {value : α} {entries : List (String × α)}

theorem names_insertEntry :
    (insertEntry name value entries).map (·.1) = Names.insert name (entries.map (·.1)) := by
  fun_induction insertEntry name value entries with
  | case1 => rfl
  | case2 j v r hlt => simp [Names.insert, hlt]
  | case3 => simp_all [Names.insert]
  | case4 j v r hlt hne ih => simp [Names.insert, hlt, hne, ih]

theorem lookup_cons_eq {j : String} {v : α} :
    ((j, v) :: entries).lookup other = if other = j then some v else entries.lookup other := by
  by_cases h : other = j
  · simp [h]
  · simp [List.lookup_cons, h, beq_eq_false_iff_ne.2 h]

/-- Entries kept by their names are found as before, and the others not at all. -/
theorem lookup_filter {p : String → Bool} :
    (entries.filter fun entry => p entry.1).lookup name = if p name then entries.lookup name else none := by
  induction entries with
  | nil => simp
  | cons entry entries ih =>
    obtain ⟨first, value⟩ := entry
    by_cases hfirst : p first
    · rw [List.filter_cons, if_pos hfirst, lookup_cons_eq, lookup_cons_eq, ih]
      by_cases hname : name = first
      · subst hname
        rw [if_pos rfl, if_pos rfl, if_pos hfirst]
      · rw [if_neg hname, if_neg hname]
    · rw [List.filter_cons, if_neg hfirst, ih, lookup_cons_eq]
      by_cases hname : name = first
      · subst hname
        rw [if_neg hfirst, if_neg hfirst]
      · rw [if_neg hname]

theorem lookup_insertEntry :
    (insertEntry name value entries).lookup other = if other = name then some value else entries.lookup other := by
  fun_induction insertEntry name value entries with
  | case1 => simp [lookup_cons_eq]
  | case2 => simp [lookup_cons_eq]
  | case3 => simp only [lookup_cons_eq]; split <;> rfl
  | case4 j v r hlt hne ih =>
    simp only [lookup_cons_eq, ih]
    by_cases h : other = name
    · simp [h, hne]
    · simp [h]

end

/-- The map without entries. -/
def empty : NameMap α := ⟨[], List.Pairwise.nil⟩

instance : Inhabited (NameMap α) := ⟨empty⟩
instance : EmptyCollection (NameMap α) := ⟨empty⟩

/-- The value under a name. -/
def find? (m : NameMap α) (name : String) : Option α := m.entries.lookup name

/-- The map with `value` under `name`, whatever was there before. -/
def insert (m : NameMap α) (name : String) (value : α) : NameMap α :=
  ⟨insertEntry name value m.entries, by rw [names_insertEntry]; exact Names.ascending_insert m.ascending⟩

/-- Some value is held under the name. -/
def contains (m : NameMap α) (name : String) : Bool := (m.find? name).isSome

/-- The names in ascending order. -/
def names (m : NameMap α) : List String := m.entries.map (·.1)

/-- The values in ascending order of their names. -/
def values (m : NameMap α) : List α := m.entries.map (·.2)

/-- Puts entries one after another, so that the last of several under one name stays. -/
def insertAll (m : NameMap α) (entries : List (String × α)) : NameMap α :=
  entries.foldl (fun m entry => m.insert entry.1 entry.2) m

/-- The map of a list of entries; of several under one name the last stays. -/
def ofList (entries : List (String × α)) : NameMap α := empty.insertAll entries

/-- The map with a function applied to each value. -/
def mapValues {β : Type} (f : α → β) (m : NameMap α) : NameMap β :=
  ⟨m.entries.map fun entry => (entry.1, f entry.2), by
    rw [List.map_map]; exact m.ascending⟩

section
variable {m n : NameMap α} {name other : String} {value : α}

@[simp] theorem find?_empty : (empty : NameMap α).find? name = none := rfl

@[simp] theorem find?_insert :
    (m.insert name value).find? other = if other = name then some value else m.find? other :=
  lookup_insertEntry

/-- Of several entries under one name the last counts. -/
theorem find?_insertAll {entries : List (String × α)} :
    (m.insertAll entries).find? name = (entries.reverse.lookup name).or (m.find? name) := by
  induction entries generalizing m with
  | nil => rfl
  | cons e entries ih =>
    rw [insertAll, List.foldl_cons, ← insertAll, ih, find?_insert, List.reverse_cons, List.lookup_append,
      Option.or_assoc, lookup_cons_eq, List.lookup_nil]
    split <;> rfl

@[simp] theorem names_insert : (m.insert name value).names = Names.insert name m.names := names_insertEntry

theorem ascending_names : Ascending m.names := m.ascending

theorem lookup_eq_some_iff {entries : List (String × α)} (h : (entries.map (·.1)).Nodup) :
    entries.lookup name = some value ↔ (name, value) ∈ entries := by
  induction entries with
  | nil => simp
  | cons e entries ih =>
    obtain ⟨j, v⟩ := e
    obtain ⟨hj, hr⟩ := List.nodup_cons.1 h
    by_cases hn : name = j
    · subst hn
      have : (name, value) ∉ entries := fun hmem => hj (List.mem_map.2 ⟨_, hmem, rfl⟩)
      simp [this, eq_comm]
    · simp [lookup_cons_eq, hn, ih hr]

/-- A name's value is the one entry that stands under it. -/
theorem find?_eq_some_iff : m.find? name = some value ↔ (name, value) ∈ m.entries :=
  lookup_eq_some_iff (Names.nodup_of_ascending m.ascending)

/-- Entries under distinct names all count. -/
theorem find?_ofList_eq_some_iff {entries : List (String × α)} (h : (entries.map (·.1)).Nodup) :
    (ofList entries).find? name = some value ↔ (name, value) ∈ entries := by
  have hreverse : (entries.reverse.map (·.1)).Nodup := ((List.reverse_perm entries).map (·.1)).nodup_iff.2 h
  rw [ofList, find?_insertAll, find?_empty, Option.or_none, lookup_eq_some_iff hreverse, List.mem_reverse]

theorem mem_names_iff : name ∈ m.names ↔ (m.find? name).isSome := by
  rw [Option.isSome_iff_exists]
  simp only [find?_eq_some_iff, names, List.mem_map, Prod.exists, exists_and_right, exists_eq_right]

/-- The first value of a kind is the one under the least name. -/
theorem find?_values_eq_some_iff {p : α → Bool} :
    m.values.find? p = some value ↔ p value = true ∧ ∃ name, m.find? name = some value ∧
      ∀ other w, other < name → m.find? other = some w → p w = false := by
  have first (e : String × α) := Names.first_iff_least (·.1) (a := e) (P := fun e => p e.2 = true) m.ascending
  simp only [values, List.find?_map, Option.map_eq_some_iff, List.find?_eq_some_iff_append, Function.comp_apply,
    Bool.not_eq_true', ← Bool.not_eq_true, first]
  simp only [Prod.exists, Prod.forall]
  constructor
  · rintro ⟨name, _, ⟨hp, hmem, hleast⟩, rfl⟩
    refine ⟨hp, name, find?_eq_some_iff.2 hmem, fun other w hlt hother hw => ?_⟩
    exact String.not_lt.2 (hleast other w (find?_eq_some_iff.1 hother) hw) hlt
  · rintro ⟨hp, name, hfind, hleast⟩
    refine ⟨name, value, ⟨hp, find?_eq_some_iff.1 hfind, fun other w hother hw => ?_⟩, rfl⟩
    exact String.not_lt.1 fun hlt => hleast other w hlt (find?_eq_some_iff.2 hother) hw

/-- Maps with the same look-ups are equal. -/
theorem ext_find? (h : ∀ name, m.find? name = n.find? name) : m = n := by
  obtain ⟨a, ha⟩ := m
  obtain ⟨b, hb⟩ := n
  suffices hab : a = b by subst hab; rfl
  have hnames : a.map (·.1) = b.map (·.1) := Names.eq_of_mem_iff ha hb fun x => by
    have : x ∈ NameMap.names ⟨a, ha⟩ ↔ _ := mem_names_iff
    have : x ∈ NameMap.names ⟨b, hb⟩ ↔ _ := mem_names_iff
    have := h x
    simp_all [names]
  have hmem : ∀ e ∈ a, e ∈ b := fun e he => by
    have h1 : NameMap.find? ⟨a, ha⟩ e.1 = some e.2 := find?_eq_some_iff.2 he
    have h2 : NameMap.find? ⟨b, hb⟩ e.1 = some e.2 := h e.1 ▸ h1
    exact find?_eq_some_iff.1 h2
  clear h
  induction a generalizing b with
  | nil => simp at hnames; exact hnames.symm
  | cons x a ih =>
    cases b with
    | nil => simp at hnames
    | cons y b =>
      simp only [List.map_cons, List.cons.injEq] at hnames
      obtain ⟨hxa, ha'⟩ := List.pairwise_cons.1 ha
      obtain ⟨hyb, hb'⟩ := List.pairwise_cons.1 hb
      have hxy : x = y := by
        rcases List.mem_cons.1 (hmem x (by simp)) with h | h
        · exact h
        · exact absurd (hnames.1 ▸ hyb x.1 (List.mem_map.2 ⟨x, h, rfl⟩)) (String.lt_irrefl _)
      subst hxy
      rw [ih ha' b hb' hnames.2 fun e he => by
        rcases List.mem_cons.1 (hmem e (by simp [he])) with h | h
        · subst h; exact absurd (hxa e.1 (List.mem_map.2 ⟨e, he, rfl⟩)) (String.lt_irrefl _)
        · exact h]

end

theorem lookup_mapValues {β : Type} {f : α → β} {entries : List (String × α)} {name : String} :
    (entries.map fun entry => (entry.1, f entry.2)).lookup name = (entries.lookup name).map f := by
  induction entries with
  | nil => rfl
  | cons e entries ih =>
    rw [List.map_cons, lookup_cons_eq, lookup_cons_eq, ih]
    split <;> rfl

@[simp] theorem find?_mapValues {β : Type} {f : α → β} {m : NameMap α} {name : String} :
    (m.mapValues f).find? name = (m.find? name).map f :=
  lookup_mapValues

theorem values_mapValues {β : Type} {f : α → β} {m : NameMap α} : (m.mapValues f).values = m.values.map f := by
  simp only [values, mapValues, List.map_map, Function.comp_def]

instance [DecidableEq α] : DecidableEq (NameMap α) := fun m n =>
  decidable_of_iff (m.entries = n.entries) (by cases m; cases n; simp)

end NameMap

end GateOperator
