import GateOperator.Proofs.Status.Conditions

/-!
Agreement of lists in which a type may occur more than once. Each condition of the newer list is compared with the
first of its type in the older one and with no other. So a list that says two things of one type agrees with no
list, and one that says them may agree with a list that does not. Main statement: for a newer list without
repeated types agreement is rearrangement, and otherwise it is wrong in these two ways alone.
-/

namespace GateOperator.Conditions

/-- Conditions of one type say the same. -/
def Uniform (conditions : List Condition) : Prop :=
  ∀ c ∈ conditions, ∀ d ∈ conditions, c.type = d.type → c.timeless = d.timeless

/-- The lists say the same in any order, transition times aside. -/
abbrev Rearranged (current new : List Condition) : Prop :=
  (current.map (·.timeless)).Perm (new.map (·.timeless))

section
variable {conditions older current new : List Condition} {c : Condition}

theorem exists_find?_of_mem (hc : c ∈ conditions) : ∃ d ∈ conditions, find? conditions c.type = some d := by
  cases hfound : find? conditions c.type with
  | none => exact absurd (List.mem_map.mpr ⟨c, hc, rfl⟩) (find?_eq_none_iff.mp hfound)
  | some d => exact ⟨d, List.mem_of_find?_eq_some hfound, rfl⟩

theorem Uniform.exists_find? (uniform : Uniform conditions) (hc : c ∈ conditions) :
    ∃ d, find? conditions c.type = some d ∧ d.timeless = c.timeless := by
  obtain ⟨d, hd, hfound⟩ := exists_find?_of_mem hc
  exact ⟨d, hfound, uniform d hd c hc (type_of_find? hfound)⟩

/-- One condition cannot agree with two that say different things. -/
theorem uniform_of_agree (h : agree current new = true) : Uniform new := by
  obtain ⟨-, found⟩ := agree_eq_true_iff.mp h
  intro c hc d hd htype
  obtain ⟨e, he, hec⟩ := found c hc
  obtain ⟨e', he', hed⟩ := found d hd
  rw [← htype] at he'
  cases he.symm.trans he'
  exact hec.symm.trans hed

theorem type_mem_of_agree (h : agree current new = true) (hc : c ∈ new) : c.type ∈ current.map (·.type) := by
  obtain ⟨-, found⟩ := agree_eq_true_iff.mp h
  obtain ⟨d, hd, -⟩ := found c hc
  exact List.mem_map.mpr ⟨d, List.mem_of_find?_eq_some hd, type_of_find? hd⟩

theorem Uniform.of_rearranged (uniform : Uniform current) (h : Rearranged current new) : Uniform new := by
  have said {c : Condition} (hc : c ∈ new) : ∃ d ∈ current, d.timeless = c.timeless :=
    List.mem_map.mp (h.mem_iff.mpr (List.mem_map.mpr ⟨c, hc, rfl⟩))
  intro c hc d hd htype
  obtain ⟨c', hc', hcc⟩ := said hc
  obtain ⟨d', hd', hdd⟩ := said hd
  have htype' : c'.type = d'.type :=
    ((Condition.timeless_eq_iff.mp hcc).1.trans htype).trans (Condition.timeless_eq_iff.mp hdd).1.symm
  rw [← hcc, ← hdd]
  exact uniform c' hc' d' hd' htype'

theorem agree_iff_uniform (h : Rearranged current new) : agree current new = true ↔ Uniform new := by
  refine ⟨uniform_of_agree, fun uniform => agree_eq_true_iff.mpr ⟨by simpa using h.length_eq, fun c hc => ?_⟩⟩
  obtain ⟨d, hd, hdc⟩ := List.mem_map.mp (h.mem_iff.mpr (List.mem_map.mpr ⟨c, hc, rfl⟩))
  obtain ⟨e, he, hed⟩ := (uniform.of_rearranged h.symm).exists_find? hd
  rw [(Condition.timeless_eq_iff.mp hdc).1] at he
  exact ⟨e, he, hed.trans hdc⟩

theorem types_perm_of_rearranged (h : Rearranged current new) : (current.map (·.type)).Perm (new.map (·.type)) := by
  simpa [List.map_map, Function.comp_def, Condition.timeless] using h.map (·.type)

/-- What an agreeing list leaves open is how often each type occurs, and what later conditions of a type say. -/
theorem rearranged_iff_of_agree (h : agree current new = true) :
    Rearranged current new ↔ Uniform current ∧ (current.map (·.type)).Perm (new.map (·.type)) := by
  constructor
  · intro rearranged
    exact ⟨(uniform_of_agree h).of_rearranged rearranged.symm, types_perm_of_rearranged rearranged⟩
  · rintro ⟨uniform, types⟩
    obtain ⟨-, found⟩ := agree_eq_true_iff.mp h
    -- what is said of a type in the older list is said of it in both
    let said (type : String) : Option Condition := (find? current type).map (·.timeless)
    have of_current : current.map (fun c => some c.timeless) = (current.map (·.type)).map said := by
      rw [List.map_map]
      refine List.map_congr_left fun c hc => ?_
      obtain ⟨d, hd, hdc⟩ := uniform.exists_find? hc
      simp [said, hd, hdc]
    have of_new : new.map (fun c => some c.timeless) = (new.map (·.type)).map said := by
      rw [List.map_map]
      refine List.map_congr_left fun c hc => ?_
      obtain ⟨d, hd, hdc⟩ := found c hc
      simp [said, hd, hdc]
    have wrapped : (current.map fun c => some c.timeless).Perm (new.map fun c => some c.timeless) := by
      rw [of_current, of_new]
      exact types.map said
    simpa [List.filterMap_map, Function.comp_def] using wrapped.filterMap id

/-- Agreement goes back when the older list, too, says one thing of each type and of no further type. -/
theorem agree_symm_iff (h : agree current new = true) :
    agree new current = true ↔ Uniform current ∧ ∀ c ∈ current, c.type ∈ new.map (·.type) := by
  constructor
  · intro back
    exact ⟨uniform_of_agree back, fun c hc => type_mem_of_agree back hc⟩
  · rintro ⟨uniform, types⟩
    obtain ⟨hlength, found⟩ := agree_eq_true_iff.mp h
    refine agree_eq_true_iff.mpr ⟨hlength.symm, fun c hc => ?_⟩
    obtain ⟨c', hc', htype'⟩ := List.mem_map.mp (types c hc)
    obtain ⟨d, hd, hfound⟩ := exists_find?_of_mem hc'
    obtain ⟨e, he, hed⟩ := found d hd
    have htype : e.type = c.type := ((type_of_find? he).trans (type_of_find? hfound)).trans htype'
    have hec : e.timeless = c.timeless := uniform e (List.mem_of_find?_eq_some he) c hc htype
    rw [← htype']
    exact ⟨d, hfound, hed.symm.trans hec⟩

theorem agree_trans (h : agree older current = true) (h' : agree current new = true) : agree older new = true := by
  obtain ⟨hlength, found⟩ := agree_eq_true_iff.mp h
  obtain ⟨hlength', found'⟩ := agree_eq_true_iff.mp h'
  refine agree_eq_true_iff.mpr ⟨hlength.trans hlength', fun c hc => ?_⟩
  obtain ⟨d, hd, hdc⟩ := found' c hc
  obtain ⟨e, he, hed⟩ := found d (List.mem_of_find?_eq_some hd)
  rw [type_of_find? hd] at he
  exact ⟨e, he, hed.trans hdc⟩

/-- Without repeated types in the newer list agreement is rearrangement. In general it misses a rearrangement
    exactly when conditions of one type say different things, and takes other lists for one exactly when such
    conditions are in the older list or the types are not the same, each as often. -/
theorem agree_tells_rearrangements (older current new : List Condition) :
    (Distinct new → (agree current new = true ↔ Rearranged current new)) ∧
      (Rearranged current new → (agree current new = true ↔ Uniform new)) ∧
      (agree current new = true →
        (Rearranged current new ↔ Uniform current ∧ (current.map (·.type)).Perm (new.map (·.type)))) ∧
      (agree current current = true ↔ Uniform current) ∧
      (agree current new = true →
        (agree new current = true ↔ Uniform current ∧ ∀ c ∈ current, c.type ∈ new.map (·.type))) ∧
      (agree older current = true → agree current new = true → agree older new = true) :=
  ⟨agree_iff, agree_iff_uniform, rearranged_iff_of_agree, agree_iff_uniform (.refl _), agree_symm_iff, agree_trans⟩

end

/-- The condition of its type, known to hold since the time. -/
def holding (type : String) (time : Option String) : Condition := ⟨type, Condition.isTrue, some "AsExpected", none, time⟩

/-- Two conditions of different types. -/
def pair (time : Option String) : List Condition := [holding "A" time, holding "B" none]

/-- Two conditions of one type that say different things. -/
def contrary : List Condition := [holding "A" none, { holding "A" none with status := Condition.isFalse }]

/-- The first of them twice. -/
def doubled : List Condition := [holding "A" none, holding "A" none]

theorem agree_tells_rearrangements_contrary :
    agree (pair (some "2025-01-01T00:00:00Z")).reverse (pair none) = true ∧
      agree (pair (some "2025-01-01T00:00:00Z")).reverse (pair none).reverse = true ∧
      ¬Uniform contrary ∧ agree contrary doubled = true ∧ ¬Rearranged contrary doubled ∧
        agree doubled contrary = false := by
  obtain ⟨rearranged_iff, -⟩ := agree_tells_rearrangements [] (pair (some "2025-01-01T00:00:00Z")).reverse (pair none)
  obtain ⟨-, -, -, -, -, trans⟩ :=
    agree_tells_rearrangements (pair (some "2025-01-01T00:00:00Z")).reverse (pair none) (pair none).reverse
  obtain ⟨-, uniform_iff, -⟩ := agree_tells_rearrangements [] contrary contrary
  obtain ⟨-, -, of_agree, -, symm_of_agree, -⟩ := agree_tells_rearrangements [] contrary doubled
  have swapped : agree (pair (some "2025-01-01T00:00:00Z")).reverse (pair none) = true :=
    (rearranged_iff (by decide)).mpr (List.Perm.swap _ _ _)
  have differ : ¬Uniform contrary := by
    intro uniform
    have h : agree contrary contrary = true := (uniform_iff (.refl _)).mpr uniform
    exact absurd h (by decide)
  have once : agree contrary doubled = true := rfl
  refine ⟨swapped, trans swapped rfl, differ, once, ?_, ?_⟩
  · intro rearranged
    exact differ ((of_agree once).mp rearranged).1
  · rw [Bool.eq_false_iff]
    intro back
    exact differ ((symm_of_agree once).mp back).1

/-- A list with two different conditions of one type is not taken for itself, and is taken for another. -/
theorem agreement_not_rearrangement :
    ¬(agree contrary contrary = true ↔ Rearranged contrary contrary) ∧
      ¬(agree contrary doubled = true ↔ Rearranged contrary doubled) := by
  constructor
  · intro h
    exact absurd (h.mpr (.refl _)) (by decide)
  · intro h
    have rearranged : Rearranged contrary doubled := h.mp rfl
    exact absurd rearranged (by decide)

end GateOperator.Conditions
