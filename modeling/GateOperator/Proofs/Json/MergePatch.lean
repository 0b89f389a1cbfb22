import GateOperator.Data.NameMap
import GateOperator.Json.MergePatch

/-!
What a merge patch makes of a record, field by field. What stands under a name afterwards depends only on
what stood there and on what the patch has for it, and no name comes to stand twice.
-/

namespace GateOperator.Json.MergePatch

variable {name other : String} {value : Value} {fields patch : List (String × Value)}

theorem lookup_setField :
    (setField name value fields).lookup other = if other = name then some value else fields.lookup other := by
  induction fields with
  | nil => rw [setField, NameMap.lookup_cons_eq]
  | cons field fields ih =>
    obtain ⟨first, old⟩ := field
    rw [setField]
    by_cases hfirst : first = name
    · subst hfirst
      rw [if_pos rfl, NameMap.lookup_cons_eq, NameMap.lookup_cons_eq]
      split <;> rfl
    · rw [if_neg hfirst, NameMap.lookup_cons_eq, NameMap.lookup_cons_eq, ih]
      split <;> grind

theorem lookup_removeField :
    (removeField name fields).lookup other = if other = name then none else fields.lookup other := by
  have keep := @NameMap.lookup_filter _ other fields fun field => field ≠ name
  by_cases hname : other = name
  · simpa [removeField, hname] using keep
  · simpa [removeField, hname] using keep

/-- Setting a field keeps the names in place; a new one comes last. -/
theorem names_setField : (setField name value fields).map (·.1) =
    if name ∈ fields.map (·.1) then fields.map (·.1) else fields.map (·.1) ++ [name] := by
  induction fields with
  | nil => rfl
  | cons field fields ih =>
    obtain ⟨first, old⟩ := field
    rw [setField]
    by_cases hfirst : first = name
    · simp [hfirst]
    · rw [if_neg hfirst, List.map_cons, ih]
      split <;> simp_all [eq_comm]

theorem names_removeField : (removeField name fields).map (·.1) = (fields.map (·.1)).filter (· ≠ name) := by
  rw [removeField, List.filter_map]
  rfl

theorem distinct_setField {p : String → Bool} (distinct : ((fields.map (·.1)).filter p).Nodup) :
    (((setField name value fields).map (·.1)).filter p).Nodup := by
  rw [names_setField]
  split
  · exact distinct
  · rename_i hname
    rw [List.filter_append]
    refine List.nodup_append.mpr ⟨distinct, (List.pairwise_singleton _ name).sublist List.filter_sublist, ?_⟩
    rintro a ha b hb rfl
    exact hname (List.mem_singleton.mp (List.mem_filter.mp hb).1 ▸ (List.mem_filter.mp ha).1)

theorem distinct_removeField {p : String → Bool} (distinct : ((fields.map (·.1)).filter p).Nodup) :
    (((removeField name fields).map (·.1)).filter p).Nodup := by
  rw [names_removeField]
  exact distinct.sublist (List.filter_sublist.filter p)

/-- What a patch makes of the value under a name. -/
def patched (old : Option Value) : Option Value → Option Value
  | none => old
  | some .null => none
  | some value => some (apply (old.getD .null) value)

/-- The first field of a patch changes what stands under its name, before the others are looked at. -/
theorem applyFields_cons (name : String) (value : Value) (fields patch : List (String × Value)) :
    ∃ next, applyFields fields ((name, value) :: patch) = applyFields next patch ∧
    (∀ other, next.lookup other =
      if other = name then patched (fields.lookup name) (some value) else fields.lookup other) ∧
    ∀ p : String → Bool, ((fields.map (·.1)).filter p).Nodup → ((next.map (·.1)).filter p).Nodup := by
  by_cases hvalue : value = .null
  · subst hvalue
    exact ⟨_, by rw [applyFields], fun _ => lookup_removeField, fun _ => distinct_removeField⟩
  · have step : applyFields fields ((name, value) :: patch) =
        applyFields (setField name (apply ((fields.lookup name).getD .null) value) fields) patch := by
      cases value <;> first | rfl | exact absurd rfl hvalue
    have set : patched (fields.lookup name) (some value) =
        some (apply ((fields.lookup name).getD .null) value) := by
      cases value <;> first | rfl | exact absurd rfl hvalue
    exact ⟨_, step, fun _ => set ▸ lookup_setField, fun _ => distinct_setField⟩

/-- A patch that names no field twice changes each by itself. -/
theorem lookup_applyFields (distinct : (patch.map (·.1)).Nodup) :
    (applyFields fields patch).lookup name = patched (fields.lookup name) (patch.lookup name) := by
  induction patch generalizing fields with
  | nil => rw [applyFields]; rfl
  | cons field patch ih =>
    obtain ⟨first, value⟩ := field
    obtain ⟨hfirst, distinct⟩ := List.nodup_cons.mp distinct
    obtain ⟨next, step, hnext, -⟩ := applyFields_cons first value fields patch
    rw [step, ih distinct, hnext, NameMap.lookup_cons_eq]
    by_cases hname : name = first
    · subst hname
      -- No later field of the patch has this name, so what the first one made of it stays.
      have rest : patch.lookup name = none := by
        rw [List.lookup_eq_none_iff]
        rintro ⟨other, value⟩ hfield
        exact bne_iff_ne.mpr fun heq => hfirst (List.mem_map.mpr ⟨_, hfield, heq.symm⟩)
      rw [if_pos rfl, if_pos rfl, rest]
      rfl
    · rw [if_neg hname, if_neg hname]

/-- Names that stand once in a record stand once after a patch. -/
theorem distinct_applyFields {p : String → Bool} (distinct : ((fields.map (·.1)).filter p).Nodup) :
    (((applyFields fields patch).map (·.1)).filter p).Nodup := by
  induction patch generalizing fields with
  | nil => rwa [applyFields]
  | cons field patch ih =>
    obtain ⟨next, step, -, hnext⟩ := applyFields_cons field.1 field.2 fields patch
    exact step ▸ ih (hnext p distinct)

end GateOperator.Json.MergePatch
