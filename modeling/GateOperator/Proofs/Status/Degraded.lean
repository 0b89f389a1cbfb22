import GateOperator.Proofs.Status.Updates

/-!
The condition that sums up the controllers. It is derived from the conditions and not from the outcomes, so a
controller that has not reported counts by the condition that was taken over for it. Main statement: the
operator is reported as degraded exactly when a controller has failed last, or when the condition of one that
has not reported says so.
-/

namespace GateOperator

/-- The status says that the operator is degraded. -/
def ClusterOperatorStatus.IsDegraded (s : ClusterOperatorStatus) : Prop := Conditions.IsTrue s.conditions Degraded.word

namespace OperatorStatus

section
variable {s : OperatorStatus} {conditions : List Condition} {controller : String} {failure : Option String}
  {clock : Nat → String} {updates : List Update}

theorem failing_ne_nil_iff (distinct : Conditions.Distinct conditions) :
    failing conditions ≠ [] ↔
      ∃ controller ≠ "", Conditions.IsTrue conditions (Degraded.conditionType controller) := by
  rw [Ne, failing, List.filterMap_eq_nil_iff]
  simp only [not_forall, Conditions.isTrue_iff distinct]
  constructor
  · rintro ⟨c, hc, h⟩
    split at h
    · rename_i htrue
      cases hname : Degraded.controller? c.type with
      | none =>
        rw [hname] at h
        exact absurd rfl h
      | some controller =>
        obtain ⟨hne, htype⟩ := Degraded.controller?_eq_some_iff.mp hname
        exact ⟨controller, hne, c, hc, htype, htrue⟩
    · exact absurd rfl h
  · rintro ⟨controller, hne, c, hc, htype, htrue⟩
    refine ⟨c, hc, ?_⟩
    rw [if_pos htrue, htype, Degraded.controller?_conditionType hne]
    exact Option.some_ne_none (controller, c)

/-- What is built says that the operator is degraded when the condition of some controller says so. -/
theorem isDegraded_build_iff_failing (distinct : Conditions.Distinct s.conditions) :
    (s.build clock).1.IsDegraded ↔ failing (s.controllerConditions clock) ≠ [] := by
  have shown : Conditions.Reports (s.buildConditions clock) (summary (failing (s.controllerConditions clock))) :=
    reports_overall distinct (List.mem_cons_self ..)
  have htype : (summary (failing (s.controllerConditions clock))).type = Degraded.word := by
    unfold summary
    split <;> rfl
  have hiff := shown.isTrue_iff
  rw [htype] at hiff
  refine hiff.trans ?_
  unfold summary
  split
  · rename_i hnil
    simp only [hnil, ne_eq, not_true_eq_false, iff_false]
    decide
  · rename_i hcons
    exact ⟨fun _ => hcons, fun _ => rfl⟩

/-- The condition of a controller that has reported says how it has ended last. -/
theorem isTrue_controllerConditions_iff (distinct : Conditions.Distinct s.conditions)
    (h : s.outcomes.find? controller = some failure) :
    Conditions.IsTrue (s.controllerConditions clock) (Degraded.conditionType controller) ↔ failure.isSome := by
  have hmem : ofOutcome controller failure ∈ s.observed :=
    List.mem_map.mpr ⟨(controller, failure), NameMap.find?_eq_some_iff.mp h, rfl⟩
  have shown : Conditions.Reports (s.controllerConditions clock) (ofOutcome controller failure) :=
    reports_controllerConditions distinct hmem
  have hiff := shown.isTrue_iff
  rw [type_ofOutcome] at hiff
  refine hiff.trans ?_
  cases failure with
  | none =>
    have : Condition.isFalse ≠ Condition.isTrue := by decide
    exact ⟨fun h => absurd h this, nofun⟩
  | some text => exact ⟨fun _ => rfl, fun _ => rfl⟩

theorem isDegraded_build_iff (sound : s.Sound) :
    (s.build clock).1.IsDegraded ↔
      (∃ controller text, s.outcomes.find? controller = some (some text)) ∨
      ∃ controller ≠ "", controller ∉ s.outcomes.names ∧
        Conditions.IsTrue s.conditions (Degraded.conditionType controller) := by
  rw [isDegraded_build_iff_failing sound.distinct, failing_ne_nil_iff (distinct_controllerConditions sound.distinct)]
  have carried {controller : String} (hunknown : controller ∉ s.outcomes.names) :
      Conditions.IsTrue (s.controllerConditions clock) (Degraded.conditionType controller) ↔
        Conditions.IsTrue s.conditions (Degraded.conditionType controller) := by
    refine Conditions.isTrue_congr (find?_controllerConditions_of_ne sound.distinct fun o ho heq => hunknown ?_)
    obtain ⟨other, hother, htype⟩ := type_of_mem_observed ho
    rwa [Degraded.conditionType_injective (heq.trans htype)]
  constructor
  · rintro ⟨controller, hne, htrue⟩
    by_cases hknown : controller ∈ s.outcomes.names
    · obtain ⟨failure, hfailure⟩ := Option.isSome_iff_exists.mp (NameMap.mem_names_iff.mp hknown)
      have hsome := (isTrue_controllerConditions_iff sound.distinct hfailure).mp htrue
      obtain ⟨text, rfl⟩ := Option.isSome_iff_exists.mp hsome
      exact .inl ⟨controller, text, hfailure⟩
    · exact .inr ⟨controller, hne, hknown, (carried hknown).mp htrue⟩
  · rintro (⟨controller, text, hfailure⟩ | ⟨controller, hne, hunknown, htrue⟩)
    · have hknown : controller ∈ s.outcomes.names := NameMap.mem_names_iff.mpr (by rw [hfailure]; rfl)
      have hne : controller ≠ "" := fun h => sound.named (h ▸ hknown)
      exact ⟨controller, hne, (isTrue_controllerConditions_iff sound.distinct hfailure).mpr rfl⟩
    · exact ⟨controller, hne, (carried hunknown).mpr htrue⟩

/-- After any updates a controller that has not reported still counts by the condition with which it began. -/
theorem isDegraded_build_run_iff (sound : s.Sound) (named : ∀ u ∈ updates, u.Named) :
    ((run s updates).build clock).1.IsDegraded ↔
      (∃ controller text, (run s updates).outcomes.find? controller = some (some text)) ∨
      ∃ controller ≠ "", controller ∉ (run s updates).outcomes.names ∧
        Conditions.IsTrue s.conditions (Degraded.conditionType controller) := by
  rw [isDegraded_build_iff (sound_run sound named)]
  refine or_congr_right (exists_congr fun controller => and_congr_right fun hne => and_congr_right fun hunknown => ?_)
  refine Conditions.isTrue_congr (find?_conditions_run sound named (conditionType_not_mem_overallTypes hne) ?_)
  rintro other hother heq
  exact hunknown (Degraded.conditionType_injective heq ▸ hother)

end

end OperatorStatus

end GateOperator
