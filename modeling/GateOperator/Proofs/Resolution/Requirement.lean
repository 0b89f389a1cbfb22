import GateOperator.Proofs.Version.Precedence
import GateOperator.Resolution.Requirement

/-!
When a requirement is met: its component is observed, and both versions are semantic versions, the observed
one of at least the precedence of the required one. The check of a gate finds no reason to keep it off
exactly when all its requirements are met, in whatever order they stand.
-/

namespace GateOperator

/-- The observed version of the component has at least the precedence of the required one. -/
def Requirement.Met (r : Requirement) (observed : Observations) : Prop :=
  ∃ text version required, observed.find? r.component = some text ∧ text ≠ "" ∧
    Version.parse text = .ok version ∧ Version.parse r.version = .ok required ∧ version.AtLeast required

/-- All requirements of the gate are met. -/
def Gate.Met (g : Gate) (observed : Observations) : Prop := ∀ r ∈ g.requirements, r.Met observed

section
variable {gate component text : String} {observed : Observations} {r : Requirement} {g : Gate}

theorem Observations.version?_eq_some_iff :
    observed.version? component = some text ↔ observed.find? component = some text ∧ text ≠ "" := by
  simp [version?, Option.filter_eq_some_iff]

/-- Nothing speaks against a requirement exactly when it is met. -/
theorem Requirement.unmet?_eq_none_iff : r.unmet? gate observed = .ok none ↔ r.Met observed := by
  constructor
  · intro h
    unfold Requirement.unmet? at h
    split at h
    · cases h
    · rename_i text htext
      obtain ⟨hfind, hne⟩ := Observations.version?_eq_some_iff.mp htext
      split at h
      · cases h
      · rename_i required hrequired
        split at h
        · cases h
        · rename_i version hversion
          have hreaches : version.reaches required = true := by simpa using h
          exact ⟨text, version, required, hfind, hne, hversion, hrequired, Version.reaches_iff.mp hreaches⟩
  · rintro ⟨text, version, required, hfind, hne, hversion, hrequired, hatLeast⟩
    have htext := Observations.version?_eq_some_iff.mpr ⟨hfind, hne⟩
    simp only [Requirement.unmet?, htext, hrequired, hversion, Version.reaches_iff.mpr hatLeast, ↓reduceIte]

theorem firstUnmet?_eq_none_iff {requirements : List Requirement} :
    firstUnmet? gate observed requirements = .ok none ↔ ∀ r ∈ requirements, r.Met observed := by
  induction requirements with
  | nil => simp [firstUnmet?]
  | cons r requirements ih =>
    rw [List.forall_mem_cons, ← ih, ← @Requirement.unmet?_eq_none_iff gate, firstUnmet?]
    split <;> simp_all

theorem Gate.unmet?_eq_none_iff : g.unmet? observed = .ok none ↔ g.Met observed := firstUnmet?_eq_none_iff

end

instance {r : Requirement} {observed : Observations} : Decidable (r.Met observed) :=
  match h : r.unmet? "" observed with
  | .ok none => .isTrue (Requirement.unmet?_eq_none_iff.mp h)
  | .ok (some _) => .isFalse fun met => by
    rw [Requirement.unmet?_eq_none_iff.mpr met] at h
    cases h
  | .error _ => .isFalse fun met => by
    rw [Requirement.unmet?_eq_none_iff.mpr met] at h
    cases h

instance {g : Gate} {observed : Observations} : Decidable (g.Met observed) :=
  inferInstanceAs (Decidable (∀ r ∈ g.requirements, r.Met observed))

end GateOperator
