import GateOperator.History
import Mathlib.Data.List.Perm.Subperm

/-!
Merging the snapshot of the running release with those recorded before. A second merge changes nothing;
releases that are recorded once are recorded once afterwards, and then there are no more of them than the
cluster remembers; what stays keeps its place among the rest.
-/

namespace GateOperator.History

section
variable {current s : Snapshot} {previous entries : List Snapshot} {known : List String} {running version : String}
  {history : List UpdateRecord}

theorem mem_knownVersions :
    version ∈ knownVersions running history ↔ version = running ∨ version ∈ history.map (·.version) := by
  rw [knownVersions, Names.mem_ofList, List.mem_cons]

theorem running_mem_knownVersions : running ∈ knownVersions running history := mem_knownVersions.mpr (.inl rfl)

theorem stays_iff : stays running known s = true ↔ s.version ≠ running ∧ s.version ∈ known := by
  simp [stays]

theorem mem_merge :
    s ∈ merge current previous known ↔
      s = current ∨ s ∈ previous ∧ s.version ≠ current.version ∧ s.version ∈ known := by
  rw [merge, List.mem_cons, List.mem_filter, stays_iff]

/-- A snapshot takes the place of one of the same release, and the others stay as they did. -/
theorem merge_merge_of_version (h : s.version = current.version) :
    merge s (merge current previous known) known = merge s previous known := by
  have hcurrent : ¬stays s.version known current = true := fun stays => (stays_iff.mp stays).1 h.symm
  simp only [merge, ← h, List.filter_cons_of_neg hcurrent, List.filter_filter, Bool.and_self]

/-- The current snapshot is not kept beside itself. -/
theorem merge_merge : merge current (merge current previous known) known = merge current previous known :=
  merge_merge_of_version rfl

theorem version_mem_of_mem_merge (hcurrent : current.version ∈ known) (hs : s ∈ merge current previous known) :
    s.version ∈ known := by
  rcases mem_merge.mp hs with rfl | ⟨-, -, h⟩
  · exact hcurrent
  · exact h

theorem nodup_merge (distinct : (previous.map (·.version)).Nodup) :
    ((merge current previous known).map (·.version)).Nodup := by
  rw [merge, List.map_cons, List.nodup_cons]
  constructor
  · intro h
    obtain ⟨s, hs, hversion⟩ := List.mem_map.mp h
    exact (stays_iff.mp (List.mem_filter.mp hs).2).1 hversion
  · exact distinct.sublist (List.filter_sublist.map _)

/-- Distinct releases that are all remembered are no more than those remembered. -/
theorem length_merge_le (hcurrent : current.version ∈ known) (distinct : (previous.map (·.version)).Nodup) :
    (merge current previous known).length ≤ known.length := by
  have hsubset : (merge current previous known).map (·.version) ⊆ known := by
    intro version h
    obtain ⟨s, hs, rfl⟩ := List.mem_map.mp h
    exact version_mem_of_mem_merge hcurrent hs
  have hle := (List.subperm_of_subset (nodup_merge distinct) hsubset).length_le
  rwa [List.length_map] at hle

/-- Entries of releases that are remembered and not running stay, in their order. -/
theorem sublist_merge (recorded : entries.Sublist previous)
    (stay : ∀ s ∈ entries, s.version ≠ current.version ∧ s.version ∈ known) :
    entries.Sublist (merge current previous known) := by
  have hentries : entries.filter (stays current.version known) = entries :=
    List.filter_eq_self.mpr fun s hs => stays_iff.mpr (stay s hs)
  rw [← hentries]
  exact (recorded.filter _).trans (List.sublist_cons_self _ _)

end

end GateOperator.History
