import GateOperator.Proofs.Status.Conditions
import GateOperator.Status.Operator

/-!
Building the conditions to report. What is built shows every outcome and the operator as a whole, is in order,
and leaves all other conditions as they were. A list that shows all this is built again from itself, whatever
the clock says.
-/

namespace GateOperator

namespace Degraded

section
variable {controller type : String}

theorem withoutEnding?_eq_some_iff {ending text front : List Char} :
    withoutEnding? ending text = some front ↔ text = front ++ ending := by
  unfold withoutEnding?
  constructor
  · intro h
    split at h
    · rename_i hsuffix
      obtain ⟨start, rfl⟩ := List.isSuffixOf_iff_suffix.mp hsuffix
      simp at h
      rw [h]
    · cases h
  · rintro rfl
    rw [if_pos (List.isSuffixOf_iff_suffix.mpr ⟨front, rfl⟩)]
    simp

/-- The conditions of controllers are those whose type is a name followed by the word. -/
theorem controller?_eq_some_iff :
    controller? type = some controller ↔ controller ≠ "" ∧ type = conditionType controller := by
  have split (front : List Char) : type.toList = front ++ word.toList ↔ type = conditionType (String.ofList front) := by
    rw [← String.toList_inj, conditionType, String.toList_append, String.toList_ofList]
  unfold controller?
  cases h : withoutEnding? word.toList type.toList with
  | none =>
    simp only [reduceCtorEq, false_iff, not_and]
    rintro - rfl
    have := withoutEnding?_eq_some_iff.mpr (String.toList_append (s := controller) (t := word))
    rw [conditionType, this] at h
    cases h
  | some front =>
    have htype := (split front).mp (withoutEnding?_eq_some_iff.mp h)
    have hname : type = conditionType controller ↔ String.ofList front = controller := by
      rw [htype, conditionType, conditionType, String.append_left_inj]
    rw [hname]
    cases front with
    | nil =>
      simp only [reduceCtorEq, false_iff, not_and]
      rintro hne rfl
      exact hne rfl
    | cons c rest =>
      simp only [Option.some.injEq, iff_and_self]
      rintro rfl hempty
      have := congrArg String.toList hempty
      rw [String.toList_ofList] at this
      cases this

theorem controller?_conditionType (h : controller ≠ "") : controller? (conditionType controller) = some controller :=
  controller?_eq_some_iff.mpr ⟨h, rfl⟩

theorem conditionType_injective : Function.Injective conditionType := fun _ _ h => (String.append_left_inj word).mp h

end

end Degraded

namespace OperatorStatus

/-- The types of the conditions about the operator as a whole. -/
def overallTypes : List String := [Degraded.word, "Available", "Progressing", "Upgradeable"]

/-- What is observed of the controllers that have reported. -/
def observed (s : OperatorStatus) : List Condition.Observation := s.outcomes.entries.map fun o => ofOutcome o.1 o.2

/-- No type of condition occurs twice, and every controller that has reported has a name. -/
structure Sound (s : OperatorStatus) : Prop where
  distinct : Conditions.Distinct s.conditions
  named : "" ∉ s.outcomes.names

/-- The conditions are in order and show how the operator as a whole is, as it follows from them. -/
structure Settled (conditions : List Condition) : Prop where
  inOrder : Conditions.InOrder conditions
  overall : ∀ o ∈ overall conditions, Conditions.Reports conditions o

section
variable {s : OperatorStatus} {conditions : List Condition} {o : Condition.Observation} {type now : String}
  {clock : Nat → String} {n : Nat} {stored built : ClusterOperatorStatus}

theorem types_overall : (overall conditions).map (·.type) = overallTypes := by
  unfold overall summary
  split <;> rfl

theorem type_mem_overallTypes (h : o ∈ overall conditions) : o.type ∈ overallTypes :=
  types_overall ▸ List.mem_map.mpr ⟨o, h, rfl⟩

theorem controller?_of_mem_overallTypes (h : type ∈ overallTypes) : Degraded.controller? type = none := by
  revert type
  decide

theorem conditionType_not_mem_overallTypes {controller : String} (h : controller ≠ "") :
    Degraded.conditionType controller ∉ overallTypes := by
  intro hmem
  have := controller?_of_mem_overallTypes hmem
  rw [Degraded.controller?_conditionType h] at this
  cases this

theorem type_ofOutcome {controller : String} {failure : Option String} :
    (ofOutcome controller failure).type = Degraded.conditionType controller := by
  cases failure <;> rfl

theorem types_observed : s.observed.map (·.type) = s.outcomes.names.map Degraded.conditionType := by
  simp only [observed, NameMap.names, List.map_map]
  exact List.map_congr_left fun e _ => type_ofOutcome

theorem type_of_mem_observed (h : o ∈ s.observed) :
    ∃ controller ∈ s.outcomes.names, o.type = Degraded.conditionType controller := by
  have : o.type ∈ s.outcomes.names.map Degraded.conditionType := types_observed ▸ List.mem_map.mpr ⟨o, h, rfl⟩
  obtain ⟨controller, hc, heq⟩ := List.mem_map.mp this
  exact ⟨controller, hc, heq.symm⟩

theorem nodup_types_observed : (s.observed.map (·.type)).Nodup := by
  rw [types_observed]
  exact (Names.nodup_of_ascending s.outcomes.ascending_names).map Degraded.conditionType_injective

theorem Sound.type_not_mem_overallTypes (sound : s.Sound) (h : o ∈ s.observed) : o.type ∉ overallTypes := by
  obtain ⟨controller, hc, heq⟩ := type_of_mem_observed h
  rw [heq]
  exact conditionType_not_mem_overallTypes fun hempty => sound.named (hempty ▸ hc)

/-! ### The conditions of the controllers -/

theorem distinct_controllerConditions (distinct : Conditions.Distinct s.conditions) :
    Conditions.Distinct (s.controllerConditions clock) :=
  Conditions.distinct_sort (Conditions.distinct_observeAll distinct)

theorem inOrder_controllerConditions (distinct : Conditions.Distinct s.conditions) :
    Conditions.InOrder (s.controllerConditions clock) :=
  Conditions.inOrder_sort (Conditions.distinct_observeAll distinct)

theorem find?_controllerConditions_of_ne (distinct : Conditions.Distinct s.conditions)
    (h : ∀ o ∈ s.observed, type ≠ o.type) :
    Conditions.find? (s.controllerConditions clock) type = Conditions.find? s.conditions type := by
  rw [controllerConditions, Conditions.find?_sort (Conditions.distinct_observeAll distinct)]
  exact Conditions.find?_observeAll_of_ne h

theorem reports_controllerConditions (distinct : Conditions.Distinct s.conditions) (h : o ∈ s.observed) :
    Conditions.Reports (s.controllerConditions clock) o :=
  (Conditions.reports_observeAll nodup_types_observed h).sort (Conditions.distinct_observeAll distinct)

/-! ### The failing controllers -/

theorem failing_observe (h : Degraded.controller? o.type = none) :
    failing (Conditions.observe o now conditions) = failing conditions := by
  have overlooked (c : Condition) (hc : c.type = o.type) (rest : List Condition) :
      failing (c :: rest) = failing rest := by
    simp [failing, hc, h]
  induction conditions with
  | nil => exact overlooked (o.new now) rfl []
  | cons c conditions ih =>
    rw [Conditions.observe]
    split
    · rename_i hc
      rw [overlooked c hc, overlooked (c.observe o now) hc]
    · show failing ([c] ++ _) = failing ([c] ++ _)
      simp only [failing, List.filterMap_append] at ih ⊢
      rw [ih]

theorem failing_observeAll {observations : List Condition.Observation}
    (h : ∀ o ∈ observations, Degraded.controller? o.type = none) :
    failing (Conditions.observeAll clock n observations conditions) = failing conditions := by
  induction observations generalizing n conditions with
  | nil => rfl
  | cons o observations ih =>
    rw [Conditions.observeAll, ih fun o' ho' => h o' (by simp [ho']), failing_observe (h o (by simp))]

/-- The failing controllers in order, if they are found among conditions that need no sorting. -/
theorem failing_sort {ordered : List Condition} (inOrder : Conditions.InOrder ordered)
    (distinct : Conditions.Distinct conditions) (h : failing conditions = failing ordered) :
    failing (Conditions.sort conditions) = failing ordered := by
  have types {l : List Condition} (hl : Conditions.InOrder l) :
      (failing l).Pairwise fun a b => a.2.type < b.2.type := by
    refine List.Pairwise.filterMap _ (fun a b hlt x hx y hy => ?_) (List.pairwise_map.mp hl)
    have of_found {c : Condition} {x : String × Condition} (hx : (if c.status = Condition.isTrue then
        (Degraded.controller? c.type).map fun controller => (controller, c) else none) = some x) : x.2 = c := by
      split at hx
      · obtain ⟨_, -, rfl⟩ := Option.map_eq_some_iff.mp hx
        rfl
      · cases hx
    rw [of_found hx, of_found hy]
    exact hlt
  have perm : (failing (Conditions.sort conditions)).Perm (failing ordered) := by
    rw [← h]
    exact Conditions.sort_perm.filterMap _
  exact perm.eq_of_pairwise (fun _ _ _ _ hab hba => absurd hba (String.lt_asymm hab))
    (types (Conditions.inOrder_sort distinct)) (types inOrder)

/-- The conditions about the operator as a whole are no conditions of controllers. -/
theorem failing_buildConditions (distinct : Conditions.Distinct s.conditions) :
    failing (s.buildConditions clock) = failing (s.controllerConditions clock) :=
  failing_sort (inOrder_controllerConditions distinct)
    (Conditions.distinct_observeAll (distinct_controllerConditions distinct))
    (failing_observeAll fun _ ho => controller?_of_mem_overallTypes (type_mem_overallTypes ho))

/-! ### What is built -/

theorem inOrder_buildConditions (distinct : Conditions.Distinct s.conditions) :
    Conditions.InOrder (s.buildConditions clock) :=
  Conditions.inOrder_sort (Conditions.distinct_observeAll (distinct_controllerConditions distinct))

theorem find?_buildConditions_of_not_mem (distinct : Conditions.Distinct s.conditions) (h : type ∉ overallTypes) :
    Conditions.find? (s.buildConditions clock) type = Conditions.find? (s.controllerConditions clock) type := by
  rw [buildConditions, Conditions.find?_sort (Conditions.distinct_observeAll (distinct_controllerConditions distinct))]
  exact Conditions.find?_observeAll_of_ne fun o ho heq => h (heq ▸ type_mem_overallTypes ho)

theorem reports_overall (distinct : Conditions.Distinct s.conditions) (h : o ∈ overall (s.controllerConditions clock)) :
    Conditions.Reports (s.buildConditions clock) o := by
  have aspects : ((overall (s.controllerConditions clock)).map (·.type)).Nodup := by
    rw [types_overall]
    decide
  exact (Conditions.reports_observeAll aspects h).sort
    (Conditions.distinct_observeAll (distinct_controllerConditions distinct))

theorem reports_buildConditions (sound : s.Sound) (h : o ∈ s.observed) :
    Conditions.Reports (s.buildConditions clock) o := by
  have shown : Conditions.Reports (s.controllerConditions clock) o := reports_controllerConditions sound.distinct h
  obtain ⟨c, hc, shows⟩ := shown
  exact ⟨c, by rw [find?_buildConditions_of_not_mem sound.distinct (sound.type_not_mem_overallTypes h), hc], shows⟩

/-- A condition that is neither about the operator as a whole nor of a controller that has reported stays. -/
theorem find?_buildConditions_of_unobserved (distinct : Conditions.Distinct s.conditions)
    (hoverall : type ∉ overallTypes)
    (hobserved : ∀ controller ∈ s.outcomes.names, type ≠ Degraded.conditionType controller) :
    Conditions.find? (s.buildConditions clock) type = Conditions.find? s.conditions type := by
  rw [find?_buildConditions_of_not_mem distinct hoverall]
  refine find?_controllerConditions_of_ne distinct fun o ho heq => ?_
  obtain ⟨controller, hc, htype⟩ := type_of_mem_observed ho
  exact hobserved controller hc (heq.trans htype)

theorem settled_buildConditions (distinct : Conditions.Distinct s.conditions) : Settled (s.buildConditions clock) where
  inOrder := inOrder_buildConditions distinct
  overall o ho := by
    rw [overall, failing_buildConditions distinct] at ho
    exact reports_overall distinct ho

/-- What shows everything that is observed is built again from itself, at any time. -/
theorem buildConditions_of_settled (settled : Settled s.conditions)
    (shown : ∀ o ∈ s.observed, Conditions.Reports s.conditions o) : s.buildConditions clock = s.conditions := by
  have controllers : s.controllerConditions clock = s.conditions := by
    show Conditions.sort (Conditions.observeAll clock 0 s.observed s.conditions) = s.conditions
    rw [Conditions.observeAll_of_reports shown, Conditions.sort_of_inOrder settled.inOrder]
  rw [buildConditions, controllers, Conditions.observeAll_of_reports settled.overall,
    Conditions.sort_of_inOrder settled.inOrder]

theorem Sound.build (sound : s.Sound) : (s.build clock).2.Sound where
  distinct := (inOrder_buildConditions sound.distinct).distinct
  named := sound.named

/-- Building again builds the same. -/
theorem build_build (sound : s.Sound) (later : Nat → String) : (s.build clock).2.build later = s.build clock := by
  have same : (s.build clock).2.buildConditions later = s.buildConditions clock :=
    buildConditions_of_settled (settled_buildConditions sound.distinct) fun _ ho => reports_buildConditions sound ho
  simp only [OperatorStatus.build] at same ⊢
  rw [same]
  rfl

/-! ### What is reported already -/

theorem isReported_iff (distinct : Conditions.Distinct built.conditions) : isReported stored built = true ↔
    stored.versions = built.versions ∧
      (stored.conditions.map (·.timeless)).Perm (built.conditions.map (·.timeless)) := by
  rw [isReported, Bool.and_eq_true, decide_eq_true_eq, Conditions.agree_iff distinct]

theorem isReported_self (distinct : Conditions.Distinct built.conditions) : isReported built built = true :=
  (isReported_iff distinct).mpr ⟨rfl, .refl _⟩

end

end OperatorStatus

end GateOperator
