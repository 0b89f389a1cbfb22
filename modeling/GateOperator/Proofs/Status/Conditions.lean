import GateOperator.Data.Names
import GateOperator.Status.Conditions
import Mathlib.Data.List.Nodup
import Mathlib.Data.List.Perm.Subperm

/-!
Lists with one condition for each type. Observing an aspect touches the condition of its type alone, and once
a condition shows what is observed, observing the same again leaves the list as it is, times included. A list
agrees with another exactly when they say the same in any order, transition times aside.
-/

namespace GateOperator

namespace Condition

/-- What the condition says, whenever it last changed. -/
def timeless (c : Condition) : Condition := { c with lastTransitionTime := none }

/-- The condition says what is observed, and since when. -/
def Shows (c : Condition) (o : Observation) : Prop :=
  ∃ time, c = ⟨o.type, o.status, some o.reason, some o.message, some time⟩

section
variable {c d : Condition} {o : Observation} {now : String}

@[simp] theorem type_new : (o.new now).type = o.type := rfl

@[simp] theorem type_observe : (c.observe o now).type = c.type := rfl

theorem Shows.new : (o.new now).Shows o := ⟨now, rfl⟩

theorem Shows.observe (h : c.type = o.type) : (c.observe o now).Shows o := ⟨_, by rw [Condition.observe, h]⟩

theorem observe_of_shows (h : c.Shows o) : c.observe o now = c := by
  obtain ⟨time, rfl⟩ := h
  simp [Condition.observe]

theorem agrees_iff : c.agrees d = true ↔ c.status = d.status ∧ c.reason = d.reason ∧ c.message = d.message := by
  simp [agrees, and_assoc]

theorem timeless_eq_iff : c.timeless = d.timeless ↔ c.type = d.type ∧ c.agrees d = true := by
  rw [agrees_iff]
  cases c
  cases d
  simp [timeless]

end

end Condition

namespace Conditions

/-- No type occurs twice. -/
abbrev Distinct (conditions : List Condition) : Prop := (conditions.map (·.type)).Nodup

/-- The conditions are in strictly ascending order of type. -/
abbrev InOrder (conditions : List Condition) : Prop := Ascending (conditions.map (·.type))

/-- The condition of a type holds. -/
def IsTrue (conditions : List Condition) (type : String) : Prop :=
  ∃ c, find? conditions type = some c ∧ c.status = Condition.isTrue

/-- The condition of its type shows what is observed. -/
def Reports (conditions : List Condition) (o : Condition.Observation) : Prop :=
  ∃ c, find? conditions o.type = some c ∧ c.Shows o

section
variable {conditions current new : List Condition} {c : Condition} {o : Condition.Observation}
  {observations : List Condition.Observation} {type now : String} {clock : Nat → String} {n : Nat}

/-! ### Looking up -/

theorem find?_cons :
    find? (c :: conditions) type = if c.type = type then some c else find? conditions type := by
  by_cases h : c.type = type <;> simp [find?, h]

theorem type_of_find? (h : find? conditions type = some c) : c.type = type := by
  simpa using List.find?_some h

theorem find?_eq_none_iff : find? conditions type = none ↔ type ∉ conditions.map (·.type) := by
  simp [find?]

theorem find?_eq_some_iff (distinct : Distinct conditions) :
    find? conditions type = some c ↔ c ∈ conditions ∧ c.type = type := by
  refine ⟨fun h => ⟨List.mem_of_find?_eq_some h, type_of_find? h⟩, ?_⟩
  rintro ⟨hc, rfl⟩
  cases hfound : find? conditions c.type with
  | none => exact absurd (List.mem_map.mpr ⟨c, hc, rfl⟩) (find?_eq_none_iff.mp hfound)
  | some d =>
    have hd := List.mem_of_find?_eq_some hfound
    rw [List.inj_on_of_nodup_map distinct hd hc (type_of_find? hfound)]

theorem find?_perm (distinct : Distinct current) (perm : current.Perm new) (type : String) :
    find? current type = find? new type := by
  have distinct' : Distinct new := (perm.map _).nodup_iff.mp distinct
  refine Option.ext fun c => ?_
  rw [find?_eq_some_iff distinct, find?_eq_some_iff distinct', perm.mem_iff]

theorem isTrue_iff (distinct : Distinct conditions) :
    IsTrue conditions type ↔ ∃ c ∈ conditions, c.type = type ∧ c.status = Condition.isTrue := by
  simp only [IsTrue, find?_eq_some_iff distinct, and_assoc]

theorem isTrue_congr (h : find? current type = find? new type) : IsTrue current type ↔ IsTrue new type := by
  rw [IsTrue, h, ← IsTrue]

theorem Reports.isTrue_iff (h : Reports conditions o) : IsTrue conditions o.type ↔ o.status = Condition.isTrue := by
  obtain ⟨c, hc, time, rfl⟩ := h
  constructor
  · rintro ⟨d, hd, htrue⟩
    cases hc.symm.trans hd
    exact htrue
  · intro htrue
    exact ⟨_, hc, htrue⟩

/-! ### Observing -/

theorem find?_observe_of_ne (h : type ≠ o.type) :
    find? (observe o now conditions) type = find? conditions type := by
  induction conditions with
  | nil => rw [observe, find?_cons, Condition.type_new, if_neg (Ne.symm h)]
  | cons c conditions ih =>
    rw [observe]
    split
    · rename_i hc
      have hne : ¬c.type = type := fun heq => h (heq.symm.trans hc)
      rw [find?_cons, find?_cons, Condition.type_observe, if_neg hne, if_neg hne]
    · rw [find?_cons, find?_cons, ih]

theorem reports_observe : Reports (observe o now conditions) o := by
  induction conditions with
  | nil => exact ⟨o.new now, by rw [observe, find?_cons, Condition.type_new, if_pos rfl], .new⟩
  | cons c conditions ih =>
    rw [observe]
    split
    · rename_i hc
      exact ⟨c.observe o now, by rw [find?_cons, Condition.type_observe, if_pos hc], .observe hc⟩
    · rename_i hc
      obtain ⟨d, hd, shows⟩ := ih
      exact ⟨d, by rw [find?_cons, if_neg hc, hd], shows⟩

/-- What is shown already leaves no trace when it is observed again. -/
theorem observe_of_reports (h : Reports conditions o) : observe o now conditions = conditions := by
  induction conditions with
  | nil =>
    obtain ⟨c, hc, -⟩ := h
    cases hc
  | cons c conditions ih =>
    obtain ⟨d, hd, shows⟩ := h
    rw [find?_cons] at hd
    rw [observe]
    split at hd
    · rename_i hc
      cases hd
      rw [if_pos hc, Condition.observe_of_shows shows]
    · rename_i hc
      rw [if_neg hc, ih ⟨d, hd, shows⟩]

theorem types_observe : (observe o now conditions).map (·.type) =
    if o.type ∈ conditions.map (·.type) then conditions.map (·.type) else conditions.map (·.type) ++ [o.type] := by
  induction conditions with
  | nil => rfl
  | cons c conditions ih =>
    rw [observe]
    by_cases hc : c.type = o.type
    · rw [if_pos hc, if_pos (by simp [hc])]
      rfl
    · rw [if_neg hc, List.map_cons, ih]
      have hmem : o.type ∈ (c :: conditions).map (·.type) ↔ o.type ∈ conditions.map (·.type) := by
        rw [List.map_cons, List.mem_cons, or_iff_right (Ne.symm hc)]
      by_cases ho : o.type ∈ conditions.map (·.type)
      · rw [if_pos ho, if_pos (hmem.mpr ho), List.map_cons]
      · rw [if_neg ho, if_neg fun h => ho (hmem.mp h), List.map_cons, List.cons_append]

theorem distinct_observe (distinct : Distinct conditions) : Distinct (observe o now conditions) := by
  rw [Distinct, types_observe]
  split
  · exact distinct
  · rename_i ho
    refine List.nodup_append.mpr ⟨distinct, List.nodup_singleton _, fun a ha b hb heq => ho ?_⟩
    rwa [← List.mem_singleton.mp hb, ← heq]

/-! ### Observing in turn -/

theorem distinct_observeAll (distinct : Distinct conditions) :
    Distinct (observeAll clock n observations conditions) := by
  induction observations generalizing n conditions with
  | nil => exact distinct
  | cons o observations ih => exact ih (distinct_observe distinct)

theorem find?_observeAll_of_ne (h : ∀ o ∈ observations, type ≠ o.type) :
    find? (observeAll clock n observations conditions) type = find? conditions type := by
  induction observations generalizing n conditions with
  | nil => rfl
  | cons o observations ih =>
    rw [observeAll, ih fun o' ho' => h o' (by simp [ho']), find?_observe_of_ne (h o (by simp))]

/-- Of observations of distinct aspects each is shown in the end. -/
theorem reports_observeAll (aspects : (observations.map (·.type)).Nodup) (ho : o ∈ observations) :
    Reports (observeAll clock n observations conditions) o := by
  induction observations generalizing n conditions with
  | nil => cases ho
  | cons o' observations ih =>
    obtain ⟨hnot, aspects⟩ := List.nodup_cons.mp aspects
    rcases List.mem_cons.mp ho with rfl | ho
    · have shown : Reports (observe o (clock n) conditions) o := reports_observe
      obtain ⟨c, hc, shows⟩ := shown
      refine ⟨c, ?_, shows⟩
      have later : ∀ o' ∈ observations, o.type ≠ o'.type := fun o' ho' heq =>
        hnot (List.mem_map.mpr ⟨o', ho', heq.symm⟩)
      rw [observeAll, find?_observeAll_of_ne later, hc]
    · exact ih aspects ho

theorem observeAll_of_reports (h : ∀ o ∈ observations, Reports conditions o) :
    observeAll clock n observations conditions = conditions := by
  induction observations generalizing n with
  | nil => rfl
  | cons o observations ih =>
    rw [observeAll, observe_of_reports (h o (by simp)), ih fun o' ho' => h o' (by simp [ho'])]

/-! ### Putting in order -/

theorem sort_perm : (sort conditions).Perm conditions := List.mergeSort_perm _ _

theorem distinct_sort (distinct : Distinct conditions) : Distinct (sort conditions) :=
  (sort_perm.map _).nodup_iff.mpr distinct

theorem find?_sort (distinct : Distinct conditions) : find? (sort conditions) type = find? conditions type :=
  (find?_perm distinct sort_perm.symm type).symm

theorem Reports.sort (distinct : Distinct conditions) (h : Reports conditions o) :
    Reports (sort conditions) o := by
  obtain ⟨c, hc, shows⟩ := h
  exact ⟨c, by rw [find?_sort distinct, hc], shows⟩

theorem inOrder_sort (distinct : Distinct conditions) : InOrder (sort conditions) := by
  have sorted : (sort conditions).Pairwise fun a b => decide (a.type ≤ b.type) = true :=
    List.pairwise_mergeSort
      (fun a b c hab hbc => by simpa using String.le_trans (by simpa using hab) (by simpa using hbc))
      (fun a b => by simpa using String.le_total a.type b.type) conditions
  have apart : (sort conditions).Pairwise fun a b => a.type ≠ b.type := List.pairwise_map.mp (distinct_sort distinct)
  refine List.pairwise_map.mpr (List.Pairwise.imp₂ ?_ sorted apart)
  intro a b hle hne
  exact Decidable.byContradiction fun hlt => hne (String.le_antisymm (by simpa using hle) (String.not_lt.mp hlt))

theorem sort_of_inOrder (h : InOrder conditions) : sort conditions = conditions := by
  refine List.mergeSort_of_pairwise ((List.pairwise_map.mp h).imp ?_)
  intro a b hlt
  simpa using String.not_lt.mp (String.lt_asymm hlt)

theorem InOrder.distinct (h : InOrder conditions) : Distinct conditions := Names.nodup_of_ascending h

/-! ### Agreeing -/

theorem agree_eq_true_iff : agree current new = true ↔ current.length = new.length ∧
    ∀ c ∈ new, ∃ d, find? current c.type = some d ∧ d.timeless = c.timeless := by
  have found (c : Condition) : ((find? current c.type).map (·.agrees c)).getD false = true ↔
      ∃ d, find? current c.type = some d ∧ d.timeless = c.timeless := by
    cases h : find? current c.type with
    | none => simp
    | some d => simp [Condition.timeless_eq_iff, type_of_find? h]
  simp only [agree, Bool.and_eq_true, decide_eq_true_eq, List.all_eq_true, found]

/-- A list without repeated types agrees with one that says the same in any order, and with no other. -/
theorem agree_iff (distinct : Distinct new) :
    agree current new = true ↔ (current.map (·.timeless)).Perm (new.map (·.timeless)) := by
  rw [agree_eq_true_iff]
  constructor
  · rintro ⟨hlength, hall⟩
    have types : (new.map (·.timeless)).map (·.type) = new.map (·.type) := by
      rw [List.map_map]
      rfl
    have nodup : (new.map (·.timeless)).Nodup := List.Nodup.of_map (·.type) (types ▸ distinct)
    have subset : new.map (·.timeless) ⊆ current.map (·.timeless) := by
      intro t ht
      obtain ⟨c, hc, rfl⟩ := List.mem_map.mp ht
      obtain ⟨d, hd, heq⟩ := hall c hc
      exact List.mem_map.mpr ⟨d, List.mem_of_find?_eq_some hd, heq⟩
    exact ((List.subperm_of_subset nodup subset).perm_of_length_le (by simp [hlength])).symm
  · intro perm
    refine ⟨by simpa using perm.length_eq, fun c hc => ?_⟩
    have types : (current.map (·.type)).Perm (new.map (·.type)) := by
      simpa [List.map_map, Function.comp_def, Condition.timeless] using perm.map (·.type)
    obtain ⟨d, hd, heq⟩ := List.mem_map.mp (perm.mem_iff.mpr (List.mem_map.mpr ⟨c, hc, rfl⟩))
    have htype := (Condition.timeless_eq_iff.mp heq).1
    exact ⟨d, (find?_eq_some_iff (types.nodup_iff.mpr distinct)).mpr ⟨hd, htype⟩, heq⟩

end

end Conditions

end GateOperator
