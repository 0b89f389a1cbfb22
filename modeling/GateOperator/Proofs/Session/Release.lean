import GateOperator.Proofs.Pass.FeatureGates
import GateOperator.Proofs.Pass.Migration
import GateOperator.Proofs.Pass.Publication
import GateOperator.Proofs.Session.Basic
import GateOperator.Proofs.Status.Versions
import Mathlib.Data.List.Induction

/-!
A release is not claimed before it is achieved. Only a pass over the recorded gates that succeeds records the
running release, and then the snapshot of that release is the first one recorded; everything else that
happens in a session leaves the versions as they are, and a publication writes no others.
-/

namespace GateOperator.Session

/-- The release of the written gates is recorded as `version`, or a status that says so has been written. -/
def Claims (w : World) (version : String) : Prop :=
  w.status.version? OperatorStatus.featureGates = some version ∨
    ∃ s, .clusterOperatorStatus s ∈ w.writes ∧ ⟨OperatorStatus.featureGates, version⟩ ∈ s.versions

/-- The pass succeeded, and the recorded snapshots begin with that of the running release, to which the stored
    object resolves. -/
def Achieves (o : Operator) (result : Pass FeatureGatePass.Sync) : Prop :=
  ∃ current, (result.1 = .ok (.unchanged current) ∨ result.1 = .ok (.updated current)) ∧
    current.version = o.version ∧
    ∃ fg, result.2.cluster.featureGate = some fg ∧
      (∃ node, fg.spec.snapshot o.catalog o.version (Observations.ofNode node) = .ok current) ∧
      ∃ rest, FeatureGate.snapshots fg = current :: rest

section
variable {o : Operator} {w w' : World} {f : Faults} {clock : Nat → String} {version : String}

/-- Claims are about the versions and the writes alone. -/
theorem Claims.of_same (h : Claims w' version) (hversions : w'.status.versions = w.status.versions)
    (hwrites : w'.writes = w.writes) : Claims w version := by
  rcases h with h | ⟨s, hs, hmem⟩
  · left
    rw [OperatorStatus.version?, ← hversions]
    exact h
  · right
    exact ⟨s, hwrites ▸ hs, hmem⟩

/-- A pass over the recorded gates makes no claim unless it achieves the release. -/
theorem claims_or_achieves_of_exit {result : Pass FeatureGatePass.Sync} (exit : FeatureGatePass.Exit o f w result)
    (h : Claims result.2 version) : Claims w version ∨ Achieves o result := by
  cases exit with
  | unreadable | featureGateMissing | clusterVersionMissing | unresolved | refused => exact .inl h
  | @unchanged r p read plan same =>
    right
    obtain ⟨stored, ⟨node, -, resolved⟩, cv, -, merged⟩ := FeatureGatePass.desired_of_plan read plan
    exact ⟨p.current, .inl rfl, FeatureGateSpec.version_of_snapshot resolved, r.featureGate, stored,
      ⟨node, resolved⟩, _, same.symm.trans merged⟩
  | @updated r p read plan =>
    right
    obtain ⟨stored, ⟨node, -, resolved⟩, cv, -, merged⟩ := FeatureGatePass.desired_of_plan read plan
    refine ⟨p.current, .inr rfl, FeatureGateSpec.version_of_snapshot resolved,
      r.featureGate.withStatus ⟨p.snapshots, FeatureGate.conditions r.featureGate⟩, ?_, ⟨node, resolved⟩, _, merged⟩
    rw [FeatureGatePass.cluster_recorded stored]

/-- The pass that retires a feature set makes no claim. -/
theorem claims_of_migration (h : Claims (MigrationPass.run f w).2 version) : Claims w version := by
  have exit := MigrationPass.run_exit f w
  generalize MigrationPass.run f w = result at exit h
  cases exit with
  | unreadable | featureGateMissing | notNeeded | refused => exact h
  | migrated =>
    rcases h with h | ⟨s, hs, hmem⟩
    · exact .inl h
    · rcases List.mem_append.mp hs with hs | hs
      · exact .inr ⟨s, hs, hmem⟩
      · cases List.mem_singleton.mp hs

/-- A publication claims only what is recorded. -/
theorem claims_of_publication (h : Claims (Publication.run f clock w).2 version) : Claims w version := by
  have exit := Publication.run_exit f clock w
  generalize Publication.run f clock w = result at exit h
  cases exit with
  | unreadable | missing | reported | refused => exact h.of_same rfl rfl
  | published =>
    rcases h with h | ⟨s, hs, hmem⟩
    · exact .inl h
    · rcases List.mem_append.mp hs with hs | hs
      · exact .inr ⟨s, hs, hmem⟩
      · -- The status just written reports the versions that were recorded when it was built.
        cases List.mem_singleton.mp hs
        exact .inl (OperatorStatus.mem_operandVersions_iff.mp hmem)

/-- One action makes no claim, unless it is a pass that achieves the release. -/
theorem claims_or_achieves_of_perform {a : Action} (h : Claims (a.perform o w) version) :
    Claims w version ∨ ∃ f, a = .featureGates f ∧ Achieves o (FeatureGatePass.run o f w) := by
  cases a with
  | featureGates f =>
    rcases claims_or_achieves_of_exit (FeatureGatePass.run_exit o f w) h with h | h
    · exact .inl h
    · exact .inr ⟨f, rfl, h⟩
  | migration f => exact .inl (claims_of_migration h)
  | publish f clock => exact .inl (claims_of_publication h)
  | setOutcome | build | change => exact .inl (h.of_same rfl rfl)

end

section
variable {o : Operator} {cluster : Cluster} {persisted : Option ClusterOperatorStatus}

/-- A start makes no claim about a release that was not reported before. -/
theorem not_claims_start {version : String} (named : version ≠ "")
    (unreported : persisted.bind (·.version? OperatorStatus.featureGates) ≠ some version) :
    ¬Claims (start cluster persisted version) version := by
  rintro (h | ⟨s, hs, -⟩)
  · rw [start, OperatorStatus.version?_seed, if_neg (by decide), if_pos rfl] at h
    cases hr : persisted.bind (·.version? OperatorStatus.featureGates) with
    | none =>
      rw [hr] at h
      exact named (Option.some.inj h).symm
    | some reported =>
      rw [hr] at h unreported
      exact unreported h
  · cases hs

/-- Whenever a session claims the running release, some earlier pass over the recorded gates achieved it. -/
theorem achieved_of_claims {actions : List Action} (named : o.version ≠ "")
    (unreported : persisted.bind (·.version? OperatorStatus.featureGates) ≠ some o.version)
    (claims : Claims (run o (start cluster persisted o.version) actions) o.version) :
    ∃ before f after, actions = before ++ .featureGates f :: after ∧
      Achieves o (FeatureGatePass.run o f (run o (start cluster persisted o.version) before)) := by
  induction actions using List.reverseRecOn with
  | nil => exact absurd claims (not_claims_start named unreported)
  | append_singleton actions a ih =>
    rw [run_concat] at claims
    rcases claims_or_achieves_of_perform claims with claims | ⟨f, rfl, achieves⟩
    · obtain ⟨before, f, after, rfl, achieves⟩ := ih claims
      exact ⟨before, f, after ++ [a], by simp, achieves⟩
    · exact ⟨actions, f, [], rfl, achieves⟩

/-- A cluster at the release 4.17.0 that is moving to 4.18.0. -/
def upgrading : Cluster where
  featureGate := some ⟨{ name := some "cluster", resourceVersion := some "7" }, ⟨"", none⟩,
    some ⟨[⟨"4.17.0", [⟨"A", []⟩], []⟩], []⟩⟩
  clusterVersion := some ⟨{ name := some "version" }, ⟨none⟩,
    some ⟨[⟨"4.18.0", some "Partial", none⟩, ⟨"4.17.0", some "Completed", none⟩]⟩⟩
  clusterOperator := some ⟨{ name := some "config-operator" }, {}, none⟩

/-- The operator of the release 4.18.0, whose default set has one more gate. -/
def successor : Operator := ⟨⟨.ofList [("Default", ⟨[⟨"A", []⟩], [⟨"B", []⟩]⟩)]⟩, "4.18.0"⟩

/-- What the operator of the release before had reported. -/
def reportedBefore : ClusterOperatorStatus := ⟨[], [⟨OperatorStatus.featureGates, "4.17.0"⟩, ⟨"operator", "4.17.0"⟩]⟩

/-- A publication and a pass whose write is refused come first; then a pass goes well, and 4.18.0 is
    published. -/
def upgrade : List Action := [
  .publish .none fun _ => "t0", .featureGates { featureGateStatus := some "conflict" },
  .featureGates .none, .publish .none fun _ => "t1"]

theorem achieved_of_claims_upgrade :
    successor.version ≠ "" ∧
      (some reportedBefore).bind (·.version? OperatorStatus.featureGates) ≠ some successor.version ∧
      Claims (run successor (start upgrading (some reportedBefore) successor.version) upgrade) successor.version ∧
      ∃ before f after, upgrade = before ++ .featureGates f :: after ∧ Achieves successor
        (FeatureGatePass.run successor f (run successor (start upgrading (some reportedBefore) successor.version)
          before)) := by
  have named : successor.version ≠ "" := by decide
  have unreported : (some reportedBefore).bind (·.version? OperatorStatus.featureGates) ≠ some successor.version := by
    decide
  have claims :
      Claims (run successor (start upgrading (some reportedBefore) successor.version) upgrade) successor.version :=
    .inl rfl
  exact ⟨named, unreported, claims, achieved_of_claims named unreported claims⟩

end

end GateOperator.Session
