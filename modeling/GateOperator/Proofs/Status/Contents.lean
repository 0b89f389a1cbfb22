import GateOperator.Proofs.Status.Transition

/-!
What a status holds that is built after any updates. Main statement: its conditions are in strictly ascending
order of type and are those taken over, those of the controllers that have reported and those about the operator
as a whole; its versions are in strictly ascending order of name and are those recorded last, or else those left
by the start. What nobody has reported about is as it was taken over.
-/

namespace GateOperator.OperatorStatus

/-- What a status holds that was built after a start and updates. -/
structure Contents (persisted : Option ClusterOperatorStatus) (running : String) (updates : List Update)
    (built : ClusterOperatorStatus) : Prop where
  inOrder : Conditions.InOrder built.conditions
  types : ∀ type, type ∈ built.conditions.map (·.type) ↔
    type ∈ overallTypes ∨ OfReporter updates type ∨ type ∈ (takenOver persisted).map (·.type)
  kept : ∀ c : Condition, c.type ∉ overallTypes → ¬OfReporter updates c.type →
    (c ∈ built.conditions ↔ c ∈ takenOver persisted)
  versionsInOrder : Ascending (built.versions.map (·.name))
  versions : ∀ name version, ⟨name, version⟩ ∈ built.versions ↔
    LastVersion updates name version ∨ (∀ u ∈ updates, ¬u.IsVersion name) ∧ Started persisted running name version

section
variable {s : OperatorStatus} {updates : List Update} {persisted : Option ClusterOperatorStatus}
  {running type name version : String} {clock : Nat → String} {c : Condition}

theorem type_mem_buildConditions (sound : s.Sound) (updated : s.IsUpdated type) :
    type ∈ (s.buildConditions clock).map (·.type) := by
  obtain ⟨-, -, c, hc, -⟩ := exists_find?_buildConditions clock sound updated
  exact List.mem_map.mpr ⟨c, List.mem_of_find?_eq_some hc, Conditions.type_of_find? hc⟩

variable (running clock) in
/-- What nobody has reported about is built as it was taken over. -/
theorem find?_build_run_seed (distinct : ∀ reported, persisted = some reported → Conditions.Distinct reported.conditions)
    (named : ∀ u ∈ updates, u.Named) (hoverall : type ∉ overallTypes) (hreporter : ¬OfReporter updates type) :
    Conditions.find? ((run (empty.seed persisted running) updates).buildConditions clock) type =
      Conditions.find? (takenOver persisted) type := by
  have unobserved : ∀ controller ∈ (run (empty.seed persisted running) updates).outcomes.names,
      type ≠ Degraded.conditionType controller := fun controller hc heq =>
    hreporter (ofReporter_iff.mpr ⟨controller, hc, heq⟩)
  have sound : (empty.seed persisted running).Sound := sound_seed distinct
  rw [find?_buildConditions_of_unobserved (sound_run sound named).distinct hoverall unobserved,
    find?_conditions_run sound named hoverall unobserved, conditions_start]

theorem ascending_operandVersions : Ascending (s.operandVersions.map (·.name)) := by
  rw [operandVersions, List.map_map]
  exact s.versions.ascending

theorem build_loses_nothing (clock : Nat → String)
    (distinct : ∀ reported, persisted = some reported → Conditions.Distinct reported.conditions)
    (named : ∀ u ∈ updates, u.Named) :
    Contents persisted running updates ((run (empty.seed persisted running) updates).build clock).1 := by
  have sound : (run (empty.seed persisted running) updates).Sound := sound_run (sound_seed distinct) named
  have inOrder : Conditions.InOrder ((run (empty.seed persisted running) updates).buildConditions clock) :=
    inOrder_buildConditions sound.distinct
  constructor
  case inOrder => exact inOrder
  case types =>
    intro type
    by_cases touched : type ∈ overallTypes ∨ OfReporter updates type
    · rw [← or_assoc, iff_true_right (.inl touched)]
      exact type_mem_buildConditions sound (isUpdated_run_seed.mpr touched)
    · obtain ⟨hoverall, hreporter⟩ := not_or.mp touched
      rw [← or_assoc, or_iff_right touched, ← not_iff_not, ← Conditions.find?_eq_none_iff,
        ← Conditions.find?_eq_none_iff, ← find?_build_run_seed running clock distinct named hoverall hreporter]
      rfl
  case kept =>
    intro c hoverall hreporter
    have found := find?_build_run_seed running clock distinct named hoverall hreporter
    have built : Conditions.find? _ c.type = some c ↔ _ := Conditions.find?_eq_some_iff inOrder.distinct
    have before : Conditions.find? _ c.type = some c ↔ _ := Conditions.find?_eq_some_iff (distinct_takenOver distinct)
    rw [and_iff_left rfl] at built before
    rw [← before, ← found]
    exact built.symm
  case versionsInOrder => exact ascending_operandVersions
  case versions =>
    intro name version
    rw [started_iff, ← version?_run_iff]
    exact mem_operandVersions_iff

/-- What an earlier release reported, with one version twice. -/
def outdated : ClusterOperatorStatus where
  conditions := [⟨"Upgradeable", "False", none, some "pinned", none⟩,
    ⟨"RetiredControllerDegraded", "True", none, none, some "t0"⟩]
  versions := [⟨"kubelet", "1.29.0"⟩, ⟨"operator", "4.17.0"⟩, ⟨"kubelet", "1.30.0"⟩]

/-- A controller fails before a build and recovers after it, and meanwhile the gates are written. -/
def progress : List Update := [
  .setOutcome "FeatureGateController" (some "timeout"), .build fun _ => "t1", .setVersion "feature-gates" "4.18.0",
  .setOutcome "FeatureGateController" none]

theorem build_loses_nothing_progress :
    let built := ((run (empty.seed (some outdated) "4.18.0") progress).build fun _ => "t2").1
    (∀ before, some outdated = some before → Conditions.Distinct before.conditions) ∧ (∀ u ∈ progress, u.Named) ∧
      Contents (some outdated) "4.18.0" progress built ∧
      ⟨"RetiredControllerDegraded", "True", none, none, some "t0"⟩ ∈ built.conditions ∧
      "FeatureGateControllerDegraded" ∈ built.conditions.map (·.type) ∧
      ⟨"feature-gates", "4.18.0"⟩ ∈ built.versions ∧ ⟨"kubelet", "1.30.0"⟩ ∈ built.versions := by
  intro built
  have distinct : ∀ before, some outdated = some before → Conditions.Distinct before.conditions := by
    rintro _ ⟨⟩
    decide
  have named : ∀ u ∈ progress, u.Named := by decide
  have contents : Contents (some outdated) "4.18.0" progress built :=
    build_loses_nothing (fun _ => "t2") distinct named
  have reporter (type : String) : OfReporter progress type ↔ type = "FeatureGateControllerDegraded" := by
    simp [OfReporter, Reported, progress, Update.IsOutcome, Degraded.conditionType, Degraded.word]
  have gates : LastVersion progress "feature-gates" "4.18.0" := ⟨progress.take 2, progress.drop 3, rfl, rfl, by decide⟩
  have kubelet : Started (some outdated) "4.18.0" "kubelet" "1.30.0" :=
    .reported (by decide) rfl ⟨outdated.versions.take 2, [], rfl, rfl, by decide⟩
  refine ⟨distinct, named, contents, ?_, ?_, ?_, ?_⟩
  · refine (contents.kept _ (by decide) ?_).mpr (by decide)
    rw [reporter]
    decide
  · exact (contents.types _).mpr (.inr (.inl ((reporter _).mpr rfl)))
  · exact (contents.versions _ _).mpr (.inl gates)
  · exact (contents.versions _ _).mpr (.inr ⟨by decide, kubelet⟩)

end

end GateOperator.OperatorStatus
