import GateOperator.Proofs.Pass.Publication
import GateOperator.Proofs.Status.Updates

/-!
A restart takes over what was reported. Main statement: the status that a process has built is built again,
with every transition time, by a new process of the same release that starts from it, so there is nothing to
publish.
-/

namespace GateOperator.OperatorStatus

section
variable {s t : OperatorStatus} {name running : String} {conditions : List Condition}

theorem version?_operandVersions :
    ClusterOperatorStatus.version? ⟨conditions, s.operandVersions⟩ name = s.version? name := by
  have entries : s.operandVersions.reverse.map (fun v => (v.name, v.version)) = s.versions.entries.reverse := by
    rw [operandVersions, List.map_reverse, List.map_map]
    exact congrArg _ (List.map_id _)
  have distinct : (s.versions.entries.reverse.map (·.1)).Nodup := by
    rw [List.map_reverse, List.nodup_reverse]
    exact Names.nodup_of_ascending s.versions.ascending
  rw [ClusterOperatorStatus.version?, ← OperandVersion.lookup_map, entries]
  refine Option.ext fun version => ?_
  rw [NameMap.lookup_eq_some_iff distinct, List.mem_reverse, ← NameMap.find?_eq_some_iff]
  rfl

theorem operandVersions_congr (h : ∀ name, s.version? name = t.version? name) :
    s.operandVersions = t.operandVersions := by
  have : s.versions = t.versions := NameMap.ext_find? h
  rw [operandVersions, this]
  rfl

/-- Versions that hold the running release and that of the written gates are taken over as they are. -/
theorem operandVersions_seed_reported (release : s.version? operator = some running)
    (written : (s.version? featureGates).isSome) :
    (empty.seed (some ⟨conditions, s.operandVersions⟩) running).operandVersions = s.operandVersions := by
  refine operandVersions_congr fun name => ?_
  rw [version?_seed, Option.bind_some, version?_operandVersions]
  by_cases hoperator : name = operator
  · rw [if_pos hoperator, hoperator, release]
  · rw [if_neg hoperator]
    by_cases hwritten : name = featureGates
    · subst hwritten
      obtain ⟨version, hv⟩ := Option.isSome_iff_exists.mp written
      rw [hv]
      rfl
    · rw [if_neg hwritten, Option.or_none]
      exact Option.or_none

/-- A process that starts from what was built last builds that. -/
theorem build_seed_build (sound : s.Sound) (release : s.version? operator = some running)
    (written : (s.version? featureGates).isSome) (clock later : Nat → String) :
    ((empty.seed (some (s.build clock).1) running).build later).1 = (s.build clock).1 := by
  have conditions : (empty.seed (some (s.build clock).1) running).buildConditions later = s.buildConditions clock :=
    buildConditions_of_settled (settled_buildConditions sound.distinct) nofun
  have versions : (empty.seed (some (s.build clock).1) running).operandVersions = s.operandVersions :=
    operandVersions_seed_reported release written
  rw [build, conditions, versions]
  rfl

end

section
variable {persisted : Option ClusterOperatorStatus} {running : String} {updates : List Update}

theorem restart_invisible (clock later : Nat → String)
    (distinct : ∀ reported, persisted = some reported → Conditions.Distinct reported.conditions)
    (named : ∀ u ∈ updates, u.Named) (kept : ∀ version, .setVersion operator version ∈ updates → version = running) :
    let reported := ((run (empty.seed persisted running) updates).build clock).1
    let restarted := empty.seed (some reported) running
    (restarted.build later).1 = reported ∧
      ∀ (f : Faults) (w : World) (co : ClusterOperator), w.status = restarted →
        w.cluster.clusterOperator = some co → co.status = some reported →
        (Publication.run f later w).2.cluster = w.cluster ∧ (Publication.run f later w).2.writes = w.writes ∧
          (f.clusterOperator = none → (Publication.run f later w).1 = .ok false) := by
  intro reported restarted
  have sound : (run (empty.seed persisted running) updates).Sound := sound_run (sound_seed distinct) named
  have release : (run (empty.seed persisted running) updates).version? operator = some running :=
    version?_run (by rw [version?_seed, if_pos rfl]) kept
  have written : ((run (empty.seed persisted running) updates).version? featureGates).isSome :=
    isSome_version?_run (by rw [version?_seed, if_neg (by decide), if_pos rfl, Option.isSome_or]; simp)
  have rebuilt : (restarted.build later).1 = reported := build_seed_build sound release written clock later
  refine ⟨rebuilt, fun f w co hstatus hco hreported => ?_⟩
  refine Publication.run_of_isReported fun other hother => ?_
  cases hco.symm.trans hother
  rw [hreported, hstatus, rebuilt]
  exact isReported_self (inOrder_buildConditions sound.distinct).distinct

/-- What the release before reported: upgrades are held back, and a controller that is gone has failed. -/
def carried : ClusterOperatorStatus where
  conditions := [⟨"Upgradeable", "False", none, some "pinned", none⟩,
    ⟨"RetiredControllerDegraded", "True", some "SyncError", some "stuck", some "t0"⟩]
  versions := [⟨"feature-gates", "4.17.0"⟩, ⟨"operator", "4.17.0"⟩]

/-- One controller recovers after a build, and the other fails after it. -/
def disturbances : List Update := [
  .setOutcome "FeatureGateController" (some "timeout"), .setVersion "feature-gates" "4.18.0", .build fun _ => "t1",
  .setOutcome "FeatureGateController" none, .setVersion "operator" "4.18.0",
  .setOutcome "LatencySensitiveRemovalController" (some "refused")]

theorem restart_invisible_disturbed :
    let reported := ((run (empty.seed (some carried) "4.18.0") disturbances).build fun _ => "t2").1
    let restarted := empty.seed (some reported) "4.18.0"
    let w : World := { cluster := { clusterOperator := some ⟨{}, {}, some reported⟩ }, status := restarted }
    (∀ before, some carried = some before → Conditions.Distinct before.conditions) ∧
      (∀ u ∈ disturbances, u.Named) ∧ (∀ version, .setVersion operator version ∈ disturbances → version = "4.18.0") ∧
      (restarted.build fun _ => "t3").1 = reported ∧
      (Publication.run .none (fun _ => "t3") w).2.cluster = w.cluster ∧
      (Publication.run .none (fun _ => "t3") w).2.writes = [] ∧
      (Publication.run .none (fun _ => "t3") w).1 = .ok false := by
  intro reported restarted w
  have distinct : ∀ before, some carried = some before → Conditions.Distinct before.conditions := by
    rintro _ ⟨⟩
    decide
  have named : ∀ u ∈ disturbances, u.Named := by decide
  have kept : ∀ version, .setVersion operator version ∈ disturbances → version = "4.18.0" := by
    intro version h
    simpa [disturbances, operator] using h
  obtain ⟨rebuilt, published⟩ := restart_invisible (fun _ => "t2") (fun _ => "t3") distinct named kept
  obtain ⟨hcluster, hwrites, skipped⟩ := published .none w ⟨{}, {}, some reported⟩ rfl rfl rfl
  exact ⟨distinct, named, kept, rebuilt, hcluster, hwrites, skipped rfl⟩

end

end GateOperator.OperatorStatus
