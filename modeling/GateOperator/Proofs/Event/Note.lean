import GateOperator.Event.Note
import GateOperator.Proofs.Text.Quoted

/-!
What the note about an update tells. Each text in it is quoted, so none can pass for the end of its own quotes and
the start of another field; and between names without commas the commas can be found again. Main statement: notes
agree exactly when feature set, release and the names on both sides do.
-/

namespace GateOperator

/-- Every gate has a name, and there is no comma in it. -/
def Snapshot.Listable (s : Snapshot) : Prop := ∀ g ∈ s.enabled ++ s.disabled, g.name ≠ "" ∧ ',' ∉ g.name.toList

instance {s : Snapshot} : Decidable s.Listable :=
  inferInstanceAs (Decidable (∀ g ∈ s.enabled ++ s.disabled, g.name ≠ "" ∧ ',' ∉ g.name.toList))

namespace Note

/-- The names in a text with commas between them. -/
def split (text : String) : List String := if text = "" then [] else (text.toList.splitOn ',').map String.ofList

section
variable {gates : List Gate} {featureSet featureSet' : String} {current current' : Snapshot}

/-- No names at all are told from one name, since names are not empty. -/
theorem split_names (listable : ∀ g ∈ gates, g.name ≠ "" ∧ ',' ∉ g.name.toList) :
    split (names gates) = gates.map (·.name) := by
  cases gates with
  | nil => rfl
  | cons g gates =>
    have written : (names (g :: gates)).toList =
        List.intercalate [','] (((g :: gates).map (·.name)).map String.toList) := String.toList_intercalate
    have commas : ∀ name ∈ ((g :: gates).map (·.name)).map String.toList, ',' ∉ name := by
      simpa using fun g hg => (listable g hg).2
    have read := List.splitOn_intercalate ',' commas (by simp)
    rw [← written] at read
    have nonempty : names (g :: gates) ≠ "" := fun empty => by
      rw [empty] at read
      have first : g.name = "" := by simpa using (List.cons.inj read).1
      exact (listable g List.mem_cons_self).1 first
    rw [split, if_neg nonempty, read, List.map_map]
    simp [Function.comp_def]

/-- Two notes agree exactly when they are about the same feature set, the same release, and the same names in the
    same order on both sides. -/
theorem update_eq_update_iff (listable : current.Listable) (listable' : current'.Listable) :
    update featureSet current = update featureSet' current' ↔
      featureSet = featureSet' ∧ current.version = current'.version ∧
        current.enabled.map (·.name) = current'.enabled.map (·.name) ∧
        current.disabled.map (·.name) = current'.disabled.map (·.name) := by
  obtain ⟨enabled, disabled⟩ := List.forall_mem_append.mp listable
  obtain ⟨enabled', disabled'⟩ := List.forall_mem_append.mp listable'
  constructor
  · intro h
    unfold update at h
    simp only [String.append_assoc, String.append_right_inj] at h
    obtain ⟨hset, h⟩ := Text.Quoted.ofString_append_inj h
    obtain ⟨hversion, h⟩ := Text.Quoted.ofString_append_inj ((String.append_right_inj _).mp h)
    obtain ⟨henabled, h⟩ := Text.Quoted.ofString_append_inj ((String.append_right_inj _).mp h)
    have hdisabled := Text.Quoted.ofString_inj ((String.append_right_inj _).mp h)
    rw [← split_names enabled, ← split_names enabled', ← split_names disabled, ← split_names disabled']
    exact ⟨hset, hversion, congrArg split henabled, congrArg split hdisabled⟩
  · rintro ⟨rfl, hversion, henabled, hdisabled⟩
    unfold update names
    rw [hversion, henabled, hdisabled]

end

/-- With their quotes left as they are, the first two notes would be the same text. -/
theorem update_eq_update_iff_forged :
    let current : Snapshot := ⟨"4.18.0", [⟨"A", [⟨"Kubelet", "1.30.0"⟩]⟩, .named "B\\\n"], [.named "C\" Disabled=\"D"]⟩
    let forged : Snapshot := ⟨"4.17.0\", Version=\"4.18.0", current.enabled, current.disabled⟩
    let bare : Snapshot := ⟨"4.18.0", [.named "A", .named "B\\\n"], current.disabled⟩
    current.Listable ∧ forged.Listable ∧ bare.Listable ∧
      update "Default\", Version=\"4.17.0" current ≠ update "Default" forged ∧
      update "Default" current = update "Default" bare := by
  intro current forged bare
  have listable : current.Listable := by decide
  have listable' : forged.Listable := by decide
  have listable'' : bare.Listable := by decide
  refine ⟨listable, listable', listable'', ?_, ?_⟩
  · exact mt (update_eq_update_iff listable listable').mp (by decide)
  · exact (update_eq_update_iff listable listable'').mpr (by decide)

end Note

end GateOperator
