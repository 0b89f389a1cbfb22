import GateOperator.Proofs.Status.Build
import GateOperator.Proofs.Status.Versions
import Mathlib.Data.List.Induction

/-!
What becomes of the operator status by any updates. Conditions keep distinct types, a controller that has
reported stays reported, and what is neither about the operator as a whole nor about a controller that has
reported is still as it was taken over.
-/

namespace GateOperator.OperatorStatus

/-- Something that is done to the operator status. -/
inductive Update where
  | setVersion (name version : String)
  | setOutcome (controller : String) (failure : Option String)
  | build (clock : Nat → String)

namespace Update

/-- The operator status after an update. -/
def perform (s : OperatorStatus) : Update → OperatorStatus
  | setVersion name version => s.setVersion name version
  | setOutcome controller failure => s.setOutcome controller failure
  | build clock => (s.build clock).2

/-- A controller that reports has a name. -/
def Named : Update → Prop
  | setVersion _ _ => True
  | setOutcome controller _ => controller ≠ ""
  | build _ => True

instance : DecidablePred Named
  | setVersion _ _ => inferInstanceAs (Decidable True)
  | setOutcome controller _ => inferInstanceAs (Decidable (controller ≠ ""))
  | build _ => inferInstanceAs (Decidable True)

end Update

/-- The operator status after updates in turn. -/
def run (s : OperatorStatus) (updates : List Update) : OperatorStatus := updates.foldl Update.perform s

section
variable {s : OperatorStatus} {u : Update} {updates more : List Update} {persisted : Option ClusterOperatorStatus}
  {running name type controller : String}

@[simp] theorem run_nil : run s [] = s := rfl

@[simp] theorem run_append : run s (updates ++ more) = run (run s updates) more := by
  simp [run]

@[simp] theorem run_singleton : run s [u] = u.perform s := rfl

theorem outcomes_seed : (s.seed persisted running).outcomes = s.outcomes := by
  cases persisted <;> rfl

theorem conditions_seed : (s.seed persisted running).conditions = (persisted.map (·.conditions)).getD s.conditions := by
  cases persisted <;> rfl

theorem sound_seed (distinct : ∀ reported, persisted = some reported → Conditions.Distinct reported.conditions) :
    (empty.seed persisted running).Sound where
  distinct := by
    rw [conditions_seed]
    cases persisted with
    | none => exact List.nodup_nil
    | some reported => exact distinct reported rfl
  named := by
    rw [outcomes_seed]
    exact List.not_mem_nil

theorem Sound.perform (sound : s.Sound) (named : u.Named) : (u.perform s).Sound := by
  cases u with
  | setVersion => exact ⟨sound.distinct, sound.named⟩
  | setOutcome controller failure =>
    refine ⟨sound.distinct, fun h => ?_⟩
    have : "" ∈ (s.outcomes.insert controller failure).names := h
    rw [NameMap.names_insert, Names.mem_insert] at this
    rcases this with heq | hmem
    · exact named heq.symm
    · exact sound.named hmem
  | build clock => exact sound.build

theorem sound_run (sound : s.Sound) (named : ∀ u ∈ updates, u.Named) : (run s updates).Sound := by
  induction updates using List.reverseRecOn with
  | nil => exact sound
  | append_singleton updates u ih =>
    rw [run_append]
    exact (ih fun v hv => named v (by simp [hv])).perform (named u (by simp))

theorem mem_names_outcomes_perform (h : name ∈ s.outcomes.names) : name ∈ (u.perform s).outcomes.names := by
  cases u with
  | setVersion | build => exact h
  | setOutcome =>
    show name ∈ (s.outcomes.insert _ _).names
    rw [NameMap.names_insert, Names.mem_insert]
    exact .inr h

/-- What is neither about the operator as a whole nor of a controller that has reported by now is as it was. -/
theorem find?_conditions_run (sound : s.Sound) (named : ∀ u ∈ updates, u.Named) (hoverall : type ∉ overallTypes)
    (hobserved : ∀ controller ∈ (run s updates).outcomes.names, type ≠ Degraded.conditionType controller) :
    Conditions.find? (run s updates).conditions type = Conditions.find? s.conditions type := by
  induction updates using List.reverseRecOn with
  | nil => rfl
  | append_singleton updates u ih =>
    rw [run_append] at hobserved ⊢
    have named' : ∀ v ∈ updates, v.Named := fun v hv => named v (by simp [hv])
    have earlier := ih named' fun controller hc => hobserved controller (mem_names_outcomes_perform hc)
    cases u with
    | setVersion | setOutcome => exact earlier
    | build clock =>
      rw [← earlier]
      exact find?_buildConditions_of_unobserved (sound_run sound named').distinct hoverall hobserved

theorem version?_perform (h : ∀ version, u = .setVersion name version → s.version? name = some version) :
    (u.perform s).version? name = s.version? name := by
  cases u with
  | setOutcome | build => rfl
  | setVersion other version =>
    rw [Update.perform, version?_setVersion]
    split
    · rename_i heq
      subst heq
      exact (h version rfl).symm
    · rfl

/-- A version stays as it was taken over unless another one is set. -/
theorem version?_run {version : String} (h : s.version? name = some version)
    (kept : ∀ other, .setVersion name other ∈ updates → other = version) :
    (run s updates).version? name = some version := by
  induction updates using List.reverseRecOn with
  | nil => exact h
  | append_singleton updates u ih =>
    have earlier := ih fun other hother => kept other (by simp [hother])
    rw [run_append, run_singleton, version?_perform, earlier]
    rintro other rfl
    rw [earlier, kept other (by simp)]

theorem isSome_version?_run (h : (s.version? name).isSome) : ((run s updates).version? name).isSome := by
  induction updates using List.reverseRecOn with
  | nil => exact h
  | append_singleton updates u ih =>
    rw [run_append]
    cases u with
    | setOutcome | build => exact ih
    | setVersion other version =>
      rw [run_singleton, Update.perform, version?_setVersion]
      split
      · rfl
      · exact ih

end

end GateOperator.OperatorStatus
