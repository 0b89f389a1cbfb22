import GateOperator.Proofs.Status.Recorded

/-!
Transition times. A build touches the condition of each type once at most, so the time of a condition is that
of the condition of its type in the list built before, unless that one had another status or no time. Main
statement: from one built list to the next a time stays exactly as long as the status does, whatever was
reported in between, and a new time is one that the clock showed during the build.
-/

namespace GateOperator

/-- The condition keeps the time of the one before it, if that had a time and the same status, and else has
    changed now. -/
structure Condition.Follows (c : Condition) (before : Option Condition) (now : String) : Prop where
  kept : ∀ d time, before = some d → d.status = c.status → d.lastTransitionTime = some time →
    c.lastTransitionTime = some time
  moved : (∀ d, before = some d → d.status = c.status → d.lastTransitionTime = none) →
    c.lastTransitionTime = some now

namespace Conditions

section
variable {conditions : List Condition} {c : Condition} {o : Condition.Observation}
  {observations : List Condition.Observation} {now : String} {clock : Nat → String} {n : Nat}

theorem follows_new : (o.new now).Follows none now := ⟨nofun, fun _ => rfl⟩

theorem follows_observe : (c.observe o now).Follows (some c) now where
  kept := by
    rintro _ time ⟨⟩ hstatus htime
    simp [Condition.observe, show c.status = o.status from hstatus, htime]
  moved h := by
    by_cases hstatus : c.status = o.status
    · simp [Condition.observe, hstatus, h c rfl hstatus]
    · simp [Condition.observe, hstatus]

theorem exists_find?_observe : ∃ c, find? (observe o now conditions) o.type = some c ∧
    c.Follows (find? conditions o.type) now := by
  induction conditions with
  | nil => exact ⟨o.new now, by rw [observe, find?_cons, Condition.type_new, if_pos rfl], follows_new⟩
  | cons c conditions ih =>
    rw [observe, find?_cons]
    split
    · rename_i hc
      exact ⟨c.observe o now, by rw [find?_cons, Condition.type_observe, if_pos hc], follows_observe⟩
    · rename_i hc
      obtain ⟨d, hd, follows⟩ := ih
      exact ⟨d, by rw [find?_cons, if_neg hc, hd], follows⟩

variable (conditions clock n) in
/-- Of observations of distinct aspects each changes the condition as it was before all of them. -/
theorem exists_find?_observeAll (aspects : (observations.map (·.type)).Nodup) (ho : o ∈ observations) :
    ∃ m < observations.length, ∃ c, find? (observeAll clock n observations conditions) o.type = some c ∧
      c.Follows (find? conditions o.type) (clock (n + m)) := by
  induction observations generalizing n conditions with
  | nil => cases ho
  | cons first observations ih =>
    obtain ⟨hnot, aspects⟩ := List.nodup_cons.mp aspects
    have apart : ∀ later ∈ observations, first.type ≠ later.type := fun later hlater heq =>
      hnot (List.mem_map.mpr ⟨later, hlater, heq.symm⟩)
    rcases List.mem_cons.mp ho with rfl | ho
    -- The later observations are of other aspects, so they neither change this condition nor see it changed.
    · obtain ⟨c, hc, follows⟩ : ∃ c, find? (observe o (clock n) conditions) o.type = some c ∧
          c.Follows (find? conditions o.type) (clock n) := exists_find?_observe
      exact ⟨0, Nat.succ_pos _, c, by rw [observeAll, find?_observeAll_of_ne apart, hc], follows⟩
    · obtain ⟨m, hm, c, hc, follows⟩ := ih (observe first (clock n) conditions) (n + 1) aspects ho
      rw [find?_observe_of_ne (apart o ho).symm, Nat.add_right_comm] at follows
      exact ⟨m + 1, Nat.succ_lt_succ hm, c, hc, follows⟩

end

end Conditions

namespace OperatorStatus

/-- The times that the clock shows during a build, one for each observation. -/
def readings (s : OperatorStatus) (clock : Nat → String) : List String :=
  (List.range (s.outcomes.entries.length + overallTypes.length)).map clock

/-- A build observes the aspect with the type. -/
def IsUpdated (s : OperatorStatus) (type : String) : Prop :=
  type ∈ overallTypes ∨ ∃ controller ∈ s.outcomes.names, type = Degraded.conditionType controller

/-- Why a condition has a new time: nothing was said of its aspect before, or something else, or the same
    without a time while the aspect is observed. -/
inductive Renewed (updates : List Update) (earlier : List Condition) (c : Condition) : Prop where
  | first (new : ∀ d ∈ earlier, d.type ≠ c.type)
  | moved {d : Condition} (known : d ∈ earlier) (type : d.type = c.type) (status : d.status ≠ c.status)
  | undated {d : Condition} (known : d ∈ earlier) (type : d.type = c.type) (time : d.lastTransitionTime = none)
      (updated : c.type ∈ overallTypes ∨ OfReporter updates c.type)

section
variable {s : OperatorStatus} {updates : List Update} {persisted : Option ClusterOperatorStatus}
  {running type : String} {clock : Nat → String} {c : Condition} {earlier : List Condition}

theorem length_observed : s.observed.length = s.outcomes.entries.length := List.length_map _

theorem length_overall {conditions : List Condition} : (overall conditions).length = overallTypes.length := rfl

theorem mem_readings {m : Nat} (h : m < s.outcomes.entries.length + overallTypes.length) :
    clock m ∈ s.readings clock :=
  List.mem_map.mpr ⟨m, List.mem_range.mpr h, rfl⟩

variable (clock) in
/-- A build changes the condition of an aspect that it observes as it was before the build. -/
theorem exists_find?_buildConditions (sound : s.Sound) (updated : s.IsUpdated type) :
    ∃ time ∈ s.readings clock, ∃ c, Conditions.find? (s.buildConditions clock) type = some c ∧
      c.Follows (Conditions.find? s.conditions type) time := by
  have distinct := sound.distinct
  rcases updated with hoverall | ⟨controller, hreported, rfl⟩
  -- The operator as a whole is observed last, on conditions that the controllers' observations have left alone.
  · have unobserved : ∀ o ∈ s.observed, type ≠ o.type := fun o ho heq =>
      sound.type_not_mem_overallTypes ho (heq ▸ hoverall)
    have types : (overall (s.controllerConditions clock)).map (·.type) = overallTypes := types_overall
    obtain ⟨o, ho, rfl⟩ := List.mem_map.mp (types.symm ▸ hoverall)
    have aspects : ((overall (s.controllerConditions clock)).map (·.type)).Nodup := by
      rw [types]
      decide
    obtain ⟨m, hm, c, hc, follows⟩ := Conditions.exists_find?_observeAll (s.controllerConditions clock) clock
      s.outcomes.entries.length aspects ho
    rw [find?_controllerConditions_of_ne distinct unobserved] at follows
    refine ⟨_, mem_readings (Nat.add_lt_add_left (length_overall ▸ hm) _), c, ?_, follows⟩
    rwa [buildConditions,
      Conditions.find?_sort (Conditions.distinct_observeAll (distinct_controllerConditions distinct))]
  · have named : controller ≠ "" := fun h => sound.named (h ▸ hreported)
    have hmem : Degraded.conditionType controller ∈ s.observed.map (·.type) :=
      types_observed ▸ List.mem_map.mpr ⟨controller, hreported, rfl⟩
    obtain ⟨o, ho, htype⟩ := List.mem_map.mp hmem
    obtain ⟨m, hm, c, hc, follows⟩ := Conditions.exists_find?_observeAll s.conditions clock 0
      nodup_types_observed ho
    rw [htype, Nat.zero_add] at follows
    refine ⟨_, mem_readings (Nat.lt_add_right _ (length_observed ▸ hm)), c, ?_, follows⟩
    rw [find?_buildConditions_of_not_mem distinct (conditionType_not_mem_overallTypes named), controllerConditions,
      Conditions.find?_sort (Conditions.distinct_observeAll distinct), ← htype]
    exact hc

theorem isUpdated_run_seed : (run (empty.seed persisted running) updates).IsUpdated type ↔
    type ∈ overallTypes ∨ OfReporter updates type := or_congr_right ofReporter_iff.symm

theorem mem_of_not_isUpdated (distinct : Conditions.Distinct s.conditions) (hc : c ∈ s.buildConditions clock)
    (unobserved : ¬s.IsUpdated c.type) : c ∈ s.conditions := by
  obtain ⟨hoverall, hreporter⟩ := not_or.mp unobserved
  have found : Conditions.find? (s.buildConditions clock) c.type = some c :=
    (Conditions.find?_eq_some_iff (inOrder_buildConditions distinct).distinct).mpr ⟨hc, rfl⟩
  rw [find?_buildConditions_of_unobserved distinct hoverall fun controller h heq => hreporter ⟨controller, h, heq⟩]
    at found
  exact List.mem_of_find?_eq_some found

theorem times_move_with_statuses (clock : Nat → String)
    (distinct : ∀ reported, persisted = some reported → Conditions.Distinct reported.conditions)
    (named : ∀ u ∈ updates, u.Named) (last : LastBuilt persisted running updates earlier) :
    let s := run (empty.seed persisted running) updates
    ∀ c ∈ (s.build clock).1.conditions,
      (∀ d ∈ earlier, d.type = c.type → d.status = c.status → ∀ time, d.lastTransitionTime = some time →
        c.lastTransitionTime = some time) ∧
      (Renewed updates earlier c → ∃ time ∈ s.readings clock, c.lastTransitionTime = some time) := by
  intro s c hc
  have sound : s.Sound := sound_run (sound_seed distinct) named
  have before : s.conditions = earlier := conditions_run_of_lastBuilt last
  have unique : ∀ {d e : Condition}, d ∈ earlier → e ∈ earlier → d.type = e.type → d = e := fun hd he =>
    List.inj_on_of_nodup_map (before ▸ sound.distinct) hd he
  by_cases updated : s.IsUpdated c.type
  · obtain ⟨time, reading, c', hc', follows⟩ := exists_find?_buildConditions clock sound updated
    have found : Conditions.find? (s.buildConditions clock) c.type = some c :=
      (Conditions.find?_eq_some_iff (inOrder_buildConditions sound.distinct).distinct).mpr ⟨hc, rfl⟩
    cases found.symm.trans hc'
    have found_before (d : Condition) : Conditions.find? s.conditions c.type = some d ↔
        d ∈ earlier ∧ d.type = c.type := before ▸ Conditions.find?_eq_some_iff sound.distinct
    refine ⟨fun d hd htype hstatus time => follows.kept d time ((found_before d).mpr ⟨hd, htype⟩) hstatus,
      fun renewed => ⟨time, reading, follows.moved fun d hd hstatus => ?_⟩⟩
    obtain ⟨hd, htype⟩ := (found_before d).mp hd
    cases renewed with
    | first new => exact absurd htype (new d hd)
    | moved known type status => exact absurd hstatus (unique known hd (type.trans htype.symm) ▸ status)
    | undated known type time => exact unique known hd (type.trans htype.symm) ▸ time
  · have kept : c ∈ earlier := before ▸ mem_of_not_isUpdated sound.distinct hc updated
    refine ⟨fun d hd htype _ time htime => unique hd kept htype ▸ htime, fun renewed => ?_⟩
    cases renewed with
    | first new => exact absurd rfl (new c kept)
    | moved known type status => exact absurd (congrArg (·.status) (unique known kept type)) status
    | undated _ _ _ touched => exact absurd (isUpdated_run_seed.mpr touched) updated

/-- What an earlier release reported: upgrades are held back, for no one knows how long. -/
def pinned : ClusterOperatorStatus where
  conditions := [⟨"Available", "True", none, none, some "t0"⟩, ⟨"Upgradeable", "False", none, some "pinned", none⟩]
  versions := []

/-- A controller fails before a build, and after it recovers and fails again with another message. -/
def relapse : List Update := [
  .setOutcome "FeatureGateController" (some "timeout"), .build fun _ => "t1",
  .setOutcome "FeatureGateController" none, .setOutcome "FeatureGateController" (some "refused")]

theorem times_move_with_statuses_relapse :
    let before := run (empty.seed (some pinned) "4.18.0") (relapse.take 1)
    let s := run (empty.seed (some pinned) "4.18.0") relapse
    (∀ reported, some pinned = some reported → Conditions.Distinct reported.conditions) ∧
      (∀ u ∈ relapse, u.Named) ∧
      LastBuilt (some pinned) "4.18.0" relapse (before.build fun _ => "t1").1.conditions ∧
      ∃ c ∈ (s.build fun _ => "t2").1.conditions, c.type = "FeatureGateControllerDegraded" ∧
        c.message = some "refused" ∧ c.lastTransitionTime = some "t1" := by
  intro before s
  have distinct : ∀ reported, some pinned = some reported → Conditions.Distinct reported.conditions := by
    rintro _ ⟨⟩
    decide
  have named : ∀ u ∈ relapse, u.Named := by decide
  have last : LastBuilt (some pinned) "4.18.0" relapse (before.build fun _ => "t1").1.conditions :=
    .built rfl (by decide)
  have named' : ∀ u ∈ relapse.take 1, u.Named := fun u hu => named u (List.mem_of_mem_take hu)
  have sound : before.Sound := sound_run (sound_seed distinct) named'
  have sound' : s.Sound := sound_run (sound_seed distinct) named
  have failed : ofOutcome "FeatureGateController" (some "timeout") ∈ before.observed := List.mem_singleton.mpr rfl
  have relapsed : ofOutcome "FeatureGateController" (some "refused") ∈ s.observed := List.mem_singleton.mpr rfl
  obtain ⟨d, hd, time, rfl⟩ : Conditions.Reports (before.buildConditions fun _ => "t1") _ :=
    reports_buildConditions sound failed
  obtain ⟨c, hc, time', rfl⟩ : Conditions.Reports (s.buildConditions fun _ => "t2") _ :=
    reports_buildConditions sound' relapsed
  have hd := List.mem_of_find?_eq_some hd
  have hc := List.mem_of_find?_eq_some hc
  -- The condition is new in the first list, so its time there is the one that the clock showed.
  have new : ∀ e ∈ takenOver (some pinned), e.type ≠ "FeatureGateControllerDegraded" := by decide
  have started : LastBuilt (some pinned) "4.18.0" (relapse.take 1) (takenOver (some pinned)) := .takenOver (by decide)
  obtain ⟨_, reading, heq⟩ := (times_move_with_statuses (fun _ => "t1") distinct named' started _ hd).2 (.first new)
  obtain ⟨_, -, rfl⟩ := List.mem_map.mp reading
  exact ⟨distinct, named, last, _, hc, rfl, rfl,
    (times_move_with_statuses (fun _ => "t2") distinct named last _ hc).1 _ hd rfl rfl _ heq⟩

end

end OperatorStatus

end GateOperator
