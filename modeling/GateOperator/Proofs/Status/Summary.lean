import GateOperator.Proofs.Status.Degraded
import GateOperator.Proofs.Status.Recorded

/-!
The condition that sums up the controllers, beside the list in which it is reported. It is derived before the
conditions about the operator as a whole are set and before the last sorting; neither changes which controllers
fail, or their order. Main statement: it names exactly the failing controllers of its own list, and every
controller that has reported is shown in that list as it has reported last.
-/

namespace GateOperator.OperatorStatus

/-- The conditions of a list that say of a controller that it fails, in the order of the list, each with the
    name of its controller. -/
structure Culprits (conditions : List Condition) (culprits : List (String × Condition)) : Prop where
  inOrder : (culprits.map (·.2)).Sublist conditions
  mem_iff : ∀ controller c, (controller, c) ∈ culprits ↔ c ∈ conditions ∧ controller ≠ "" ∧
    c.type = Degraded.conditionType controller ∧ c.status = Condition.isTrue

/-- The condition names the failing controllers and their messages; without any, it says that all is well. -/
structure SumsUp (c : Condition) (culprits : List (String × Condition)) : Prop where
  status : c.status = if culprits = [] then "False" else "True"
  reason : c.reason =
    some (if culprits = [] then "AsExpected" else "::".intercalate (culprits.map fun f => f.1 ++ "_SyncError"))
  message : c.message =
    some (if culprits = [] then "" else
      "\n".intercalate (culprits.map fun f => f.2.type ++ ": " ++ f.2.message.getD ""))

section
variable {s : OperatorStatus} {conditions : List Condition} {culprits : List (String × Condition)} {c : Condition}
  {clock : Nat → String} {updates : List Update} {persisted : Option ClusterOperatorStatus}
  {running controller : String} {failure : Option String}

theorem culprit_eq_some_iff {f : String × Condition} :
    (if c.status = Condition.isTrue then (Degraded.controller? c.type).map fun controller => (controller, c)
      else none) = some f ↔
      f.2 = c ∧ f.1 ≠ "" ∧ c.type = Degraded.conditionType f.1 ∧ c.status = Condition.isTrue := by
  obtain ⟨controller, d⟩ := f
  split
  · rename_i holds
    simp only [Option.map_eq_some_iff, Prod.mk.injEq, Degraded.controller?_eq_some_iff, holds, and_true]
    constructor
    · rintro ⟨_, ⟨named, htype⟩, rfl, rfl⟩
      exact ⟨rfl, named, htype⟩
    · rintro ⟨rfl, named, htype⟩
      exact ⟨controller, ⟨named, htype⟩, rfl, rfl⟩
  · rename_i other
    simp [other]

theorem culprits_failing : Culprits conditions (failing conditions) where
  inOrder := by
    induction conditions with
    | nil => exact .slnil
    | cons c conditions ih =>
      rw [failing, List.filterMap_cons]
      split
      · exact ih.cons c
      · rename_i f hf
        obtain ⟨rfl, -⟩ := culprit_eq_some_iff.mp hf
        exact ih.cons_cons f.2
  mem_iff controller c := by
    simp only [failing, List.mem_filterMap, culprit_eq_some_iff]
    constructor
    · rintro ⟨c, hc, rfl, h⟩
      exact ⟨hc, h⟩
    · rintro ⟨hc, h⟩
      exact ⟨c, hc, rfl, h⟩

/-- A list in order says in one way only of which controllers that they fail. -/
theorem culprits_iff (inOrder : Conditions.InOrder conditions) :
    Culprits conditions culprits ↔ culprits = failing conditions := by
  refine ⟨fun h => ?_, fun h => h ▸ culprits_failing⟩
  -- Both lists have the same members, and the types ascend strictly in each.
  have ordered : conditions.Pairwise fun a b => a.type < b.type := List.pairwise_map.mp inOrder
  have ascending {l : List (String × Condition)} (hl : (l.map (·.2)).Sublist conditions) :
      l.Pairwise fun a b => a.2.type < b.2.type := by
    have sorted := ordered.sublist hl
    rwa [List.pairwise_map] at sorted
  have nodup {l : List (String × Condition)} (hl : (l.map (·.2)).Sublist conditions) : l.Nodup :=
    (ascending hl).imp fun {a b} hlt (heq : a = b) => String.lt_irrefl b.2.type (heq ▸ hlt)
  have perm : culprits.Perm (failing conditions) :=
    (List.perm_ext_iff_of_nodup (nodup h.inOrder) (nodup culprits_failing.inOrder)).mpr fun f => by
      rw [h.mem_iff f.1 f.2, culprits_failing.mem_iff f.1 f.2]
  exact perm.eq_of_pairwise (fun _ _ _ _ hab hba => absurd hba (String.lt_asymm hab))
    (ascending h.inOrder) (ascending culprits_failing.inOrder)

theorem sumsUp_of_shows (h : c.Shows (summary culprits)) : SumsUp c culprits := by
  obtain ⟨time, rfl⟩ := h
  cases culprits with
  | nil => exact ⟨rfl, rfl, rfl⟩
  | cons f culprits =>
    have some : f :: culprits ≠ [] := List.cons_ne_nil f culprits
    have named (name : String) : name ++ "_" ++ syncError = name ++ "_SyncError" := String.append_assoc
    refine ⟨by rw [if_neg some]; rfl, ?_, by rw [if_neg some]; rfl⟩
    rw [if_neg some]
    simp only [← named]
    rfl

/-- What is built sums up the controllers as they stand in it. -/
theorem exists_sumsUp_build (sound : s.Sound) : ∃ culprits c,
    (∀ l, Culprits (s.buildConditions clock) l ↔ l = culprits) ∧
      Conditions.find? (s.buildConditions clock) Degraded.word = some c ∧ SumsUp c culprits := by
  have settled : Settled (s.buildConditions clock) := settled_buildConditions sound.distinct
  have htype : (summary (failing (s.buildConditions clock))).type = Degraded.word := by
    unfold summary
    split <;> rfl
  obtain ⟨c, hc, shows⟩ := settled.overall _ (List.mem_cons_self ..)
  rw [htype] at hc
  exact ⟨_, c, fun l => culprits_iff settled.inOrder, hc, sumsUp_of_shows shows⟩

variable (clock) in
theorem reports_build_run_seed (sound : (run (empty.seed persisted running) updates).Sound)
    (last : LastOutcome updates controller failure) :
    Conditions.Reports ((run (empty.seed persisted running) updates).buildConditions clock)
      (ofOutcome controller failure) :=
  reports_buildConditions sound
    (List.mem_map.mpr ⟨(controller, failure), NameMap.find?_eq_some_iff.mp (find?_outcomes_run_seed.mpr last), rfl⟩)

theorem isDegraded_build_iff_exists (sound : s.Sound) : (s.build clock).1.IsDegraded ↔
    ∃ c ∈ s.buildConditions clock, ∃ controller ≠ "",
      c.type = Degraded.conditionType controller ∧ c.status = Condition.isTrue := by
  rw [isDegraded_build_iff_failing sound.distinct, ← failing_buildConditions sound.distinct]
  constructor
  · intro some
    obtain ⟨f, hf⟩ := List.exists_mem_of_ne_nil _ some
    obtain ⟨hc, h⟩ := (culprits_failing.mem_iff f.1 f.2).mp hf
    exact ⟨f.2, hc, f.1, h⟩
  · rintro ⟨c, hc, controller, h⟩
    exact List.ne_nil_of_mem ((culprits_failing.mem_iff controller c).mpr ⟨hc, h⟩)

theorem build_sums_up (running : String) (clock : Nat → String)
    (distinct : ∀ reported, persisted = some reported → Conditions.Distinct reported.conditions)
    (named : ∀ u ∈ updates, u.Named) :
    let reported := ((run (empty.seed persisted running) updates).build clock).1
    (reported.IsDegraded ↔ ∃ c ∈ reported.conditions, ∃ controller ≠ "",
      c.type = Degraded.conditionType controller ∧ c.status = "True") ∧
    (∃ culprits c, (∀ l, Culprits reported.conditions l ↔ l = culprits) ∧
      Conditions.find? reported.conditions "Degraded" = some c ∧ SumsUp c culprits) ∧
    ∀ controller failure, LastOutcome updates controller failure → ∃ c,
      Conditions.find? reported.conditions (Degraded.conditionType controller) = some c ∧
        match failure with
        | some text => c.status = "True" ∧ c.reason = some "SyncError" ∧ c.message = some text
        | none => c.status = "False" := by
  intro reported
  have sound : (run (empty.seed persisted running) updates).Sound := sound_run (sound_seed distinct) named
  refine ⟨isDegraded_build_iff_exists sound, exists_sumsUp_build sound, fun controller failure last => ?_⟩
  obtain ⟨c, hc, time, rfl⟩ := reports_build_run_seed clock sound last
  rw [type_ofOutcome] at hc
  refine ⟨_, hc, ?_⟩
  cases failure with
  | some text => exact ⟨rfl, rfl, rfl⟩
  | none => rfl

/-- Of a controller that is gone it was reported that it fails, without a message. -/
def orphaned : ClusterOperatorStatus where
  conditions := [⟨"RetiredControllerDegraded", "True", none, none, some "t0"⟩]
  versions := []

/-- One controller recovers after a build, and one whose name is the fixed word itself fails. -/
def mishaps : List Update := [
  .setOutcome "FeatureGateController" (some "timeout"), .build fun _ => "t1",
  .setOutcome "FeatureGateController" none, .setOutcome "Degraded" (some "stuck")]

theorem build_sums_up_mishaps :
    let reported := ((run (empty.seed (some orphaned) "4.18.0") mishaps).build fun _ => "t2").1
    (∀ before, some orphaned = some before → Conditions.Distinct before.conditions) ∧ (∀ u ∈ mishaps, u.Named) ∧
      LastOutcome mishaps "FeatureGateController" none ∧ LastOutcome mishaps "Degraded" (some "stuck") ∧
      (∃ c, Conditions.find? reported.conditions "FeatureGateControllerDegraded" = some c ∧ c.status = "False") ∧
      (∃ c, Conditions.find? reported.conditions "DegradedDegraded" = some c ∧ c.status = "True" ∧
        c.reason = some "SyncError" ∧ c.message = some "stuck") ∧
      reported.IsDegraded := by
  intro reported
  have distinct : ∀ before, some orphaned = some before → Conditions.Distinct before.conditions := by
    rintro _ ⟨⟩
    decide
  have named : ∀ u ∈ mishaps, u.Named := by decide
  have recovered : LastOutcome mishaps "FeatureGateController" none :=
    ⟨mishaps.take 2, mishaps.drop 3, rfl, rfl, by decide⟩
  have failed : LastOutcome mishaps "Degraded" (some "stuck") := ⟨mishaps.take 3, [], rfl, rfl, by decide⟩
  obtain ⟨degraded, -, shown⟩ := build_sums_up "4.18.0" (fun _ => "t2") distinct named
  obtain ⟨c, hc, hstatus, h⟩ := shown "Degraded" (some "stuck") failed
  have failing : reported.IsDegraded := degraded.mpr
    ⟨c, List.mem_of_find?_eq_some hc, "Degraded", by decide, Conditions.type_of_find? hc, hstatus⟩
  exact ⟨distinct, named, recovered, failed, shown _ none recovered, ⟨c, hc, hstatus, h⟩, failing⟩

end

end GateOperator.OperatorStatus
