import GateOperator.Proofs.Service.Degraded

/-!
What is counted in service, beside what is written and told. A pass counts as one that wrote exactly when the
cluster has accepted its write and an event has told of it. Main statement: whatever fails in a run, the counts,
the writes and the events agree after it, every pass is counted once, and a controller is held to be degraded
when its last pass was counted as failed.
-/

namespace GateOperator

/-- Nothing has been counted, written, told or held against a controller yet. -/
structure World.Fresh (w : World) : Prop where
  metrics : w.metrics = .empty
  writes : w.writes = []
  events : w.events = []
  outcomes : w.status.outcomes = .empty

theorem Session.fresh_start (cluster : Cluster) (persisted : Option ClusterOperatorStatus) (version : String) :
    (start cluster persisted version).Fresh :=
  ⟨rfl, rfl, rfl, OperatorStatus.outcomes_seed⟩

namespace Tally

variable {t : Tally} {outcome other : Outcome}

theorem updated_add (h : outcome ≠ .updated) : (t.add outcome).updated = t.updated := by
  cases outcome with
  | updated => exact absurd rfl h
  | unchanged | skipped | error => rfl

theorem add_injective (h : t.add outcome = t.add other) : outcome = other := by
  have count : (t.add outcome).get outcome = (t.add other).get outcome := by rw [h]
  rw [get_add, get_add, if_pos rfl] at count
  split at count
  · rename_i heq
    exact heq.symm
  · omega

end Tally

namespace World

variable {w : World} {controller other : String} {outcome : Outcome} {elapsed : Duration} {failure : Option String}
  {current : Option Snapshot}

theorem tally_conclude : (w.conclude controller outcome elapsed failure).metrics.tally other =
    if other = controller then (w.metrics.tally other).add outcome else w.metrics.tally other :=
  Metrics.tally_recordPass

theorem tally_countGates : (w.countGates current).metrics.tally controller = w.metrics.tally controller := by
  cases current <;> rfl

end World

namespace Controller

/-- The writes that are those of the controller. -/
def makes : Controller → Write → Bool
  | featureGates, .featureGateStatus _ _ => true
  | migration, .featureSet _ _ => true
  | _, _ => false

/-- The reason that the controller gives for its events. -/
def reason : Controller → String
  | featureGates => Event.featureGateUpdate
  | migration => Event.featureSetMigrated

/-- The controller has told this of what it has written. -/
def tells (c : Controller) (e : Event) : Bool := e.reason = c.reason

/-- How a pass of the controller ends. -/
def outcome (c : Controller) (o : Operator) (f : Faults) (w : World) : Outcome :=
  match c with
  | featureGates =>
    match (FeatureGatePass.run o f w).1 with
    | .ok sync => sync.outcome
    | .error _ => .error
  | migration =>
    match (MigrationPass.run f w).1 with
    | .ok done => done.outcome
    | .error _ => .error

section
variable {c other : Controller} {o : Operator} {f : Faults} {w : World} {elapsed : Duration} {q : Write} {e : Event}

theorem makes_eq (h : c.makes q = true) : other.makes q = decide (other = c) := by
  cases q <;> cases c <;> cases h <;> cases other <;> rfl

theorem tells_eq (h : c.tells e = true) : other.tells e = decide (other = c) := by
  have hreason : e.reason = c.reason := of_decide_eq_true h
  unfold tells
  rw [hreason]
  cases c <;> cases other <;> decide

/-- A pass ends as failed when something is wrong with it. -/
theorem outcome_eq_error_iff : c.outcome o f w = .error ↔ ∃ text, c.failure? o f w = some text := by
  cases c with
  | featureGates =>
    unfold outcome failure?
    cases (FeatureGatePass.run o f w).1 with
    | ok sync => cases sync <;> simp [FeatureGatePass.Sync.outcome]
    | error e => simp
  | migration =>
    unfold outcome failure?
    cases (MigrationPass.run f w).1 with
    | ok done => cases done <;> simp [MigrationPass.Migration.outcome]
    | error e => simp

theorem tally_pass : (c.pass o f elapsed w).1.metrics.tally other.name =
    if other = c then (w.metrics.tally other.name).add (c.outcome o f w) else w.metrics.tally other.name := by
  have hname : other.name = c.name ↔ other = c := ⟨name_injective, congrArg name⟩
  refine Eq.trans ?_ (if_congr hname rfl rfl)
  cases c with
  | featureGates =>
    have exit := FeatureGatePass.run_exit o f w
    unfold Controller.pass Controller.outcome
    generalize FeatureGatePass.run o f w = result at exit ⊢
    cases exit with
    | unreadable | unresolved | refused => exact World.tally_conclude
    | featureGateMissing | clusterVersionMissing | unchanged | updated =>
      exact World.tally_countGates.trans World.tally_conclude
  | migration =>
    have exit := MigrationPass.run_exit f w
    unfold Controller.pass Controller.outcome
    generalize MigrationPass.run f w = result at exit ⊢
    cases exit with
    | unreadable | featureGateMissing | notNeeded | refused | migrated => exact World.tally_conclude

end

end Controller

namespace Service

/-- What a pass adds to the writes and events by the way it ends: if it wrote, one of each, and else nothing. -/
inductive Effect (c : Controller) (w w' : World) : Outcome → Prop where
  | quiet {outcome : Outcome} (h : outcome ≠ .updated) (writes : w'.writes = w.writes) (events : w'.events = w.events)
      (counted : w'.metrics.statusWrites = w.metrics.statusWrites) : Effect c w w' outcome
  | wrote {q : Write} {e : Event} (makes : c.makes q = true) (tells : c.tells e = true)
      (writes : w'.writes = w.writes ++ [q]) (events : w'.events = w.events ++ [e])
      (counted : w'.metrics.writesOf FeatureGate.kind.name =
        w.metrics.writesOf FeatureGate.kind.name + if .featureGates = c then 1 else 0) : Effect c w w' .updated

/-- The counts of passes that wrote are those of the writes and of the events. -/
structure Consistent (w : World) : Prop where
  counted : w.metrics.writesOf FeatureGate.kind.name = (w.metrics.tally Controller.featureGates.name).updated
  written : ∀ c : Controller, w.writes.countP c.makes = (w.metrics.tally c.name).updated
  told : ∀ c : Controller, w.events.countP c.tells = (w.metrics.tally c.name).updated

section
variable {o : Operator} {f : Faults} {w w' : World} {elapsed : Duration} {c : Controller} {a : Action}
  {actions : List Action} {outcome : Outcome}

theorem effect_pass : Effect c w (c.pass o f elapsed w).1 (c.outcome o f w) := by
  cases c with
  | featureGates =>
    have exit := FeatureGatePass.run_exit o f w
    unfold Controller.pass Controller.outcome
    generalize FeatureGatePass.run o f w = result at exit ⊢
    cases exit with
    | unreadable | featureGateMissing | clusterVersionMissing | unresolved | unchanged | refused =>
      exact .quiet nofun rfl rfl rfl
    | @updated r p => exact .wrote (q := r.write p) rfl rfl rfl rfl Metrics.writesOf_recordStatusWrite
  | migration =>
    have exit := MigrationPass.run_exit f w
    unfold Controller.pass Controller.outcome
    generalize MigrationPass.run f w = result at exit ⊢
    cases exit with
    | unreadable | featureGateMissing | notNeeded | refused => exact .quiet nofun rfl rfl rfl
    | migrated => exact .wrote (q := MigrationPass.write) rfl rfl rfl rfl rfl

/-- What a pass adds to the writes and to the events, it adds to the counts. -/
theorem Consistent.add (h : Consistent w) (effect : Effect c w w' outcome)
    (tally : ∀ other : Controller, w'.metrics.tally other.name =
      if other = c then (w.metrics.tally other.name).add outcome else w.metrics.tally other.name) :
    Consistent w' := by
  cases effect with
  | quiet hne writes events counted =>
    have same (other : Controller) :
        (w'.metrics.tally other.name).updated = (w.metrics.tally other.name).updated := by
      rw [tally]
      split
      · exact Tally.updated_add hne
      · rfl
    refine ⟨?_, fun other => ?_, fun other => ?_⟩
    · rw [same, ← h.counted, Metrics.writesOf, Metrics.writesOf, counted]
    · rw [same, ← h.written, writes]
    · rw [same, ← h.told, events]
  | wrote makes tells writes events counted =>
    have more (other : Controller) : (w'.metrics.tally other.name).updated =
        (w.metrics.tally other.name).updated + if other = c then 1 else 0 := by
      rw [tally]
      split <;> rfl
    refine ⟨?_, fun other => ?_, fun other => ?_⟩
    · rw [more, ← h.counted, counted]
    · simp only [more, ← h.written, writes, List.countP_append, List.countP_singleton, Controller.makes_eq makes,
        decide_eq_true_eq]
    · simp only [more, ← h.told, events, List.countP_append, List.countP_singleton, Controller.tells_eq tells,
        decide_eq_true_eq]

theorem Consistent.perform (h : Consistent w) : Consistent (a.perform o w) := by
  cases a with
  | offer c object f elapsed =>
    rw [perform_offer]
    split
    · exact h.add effect_pass fun _ => Controller.tally_pass
    · exact h
  | publish f clock =>
    have exit := Publication.run_exit f clock w
    show Consistent (Publication.run f clock w).2
    generalize Publication.run f clock w = result at exit ⊢
    cases exit with
    | unreadable | missing => exact h
    | reported | refused => exact ⟨h.counted, h.written, h.told⟩
    | published =>
      -- The write that publishes is that of no controller, and it is counted for another kind.
      refine ⟨Metrics.writesOf_recordStatusWrite.trans h.counted, fun c => ?_, h.told⟩
      show (w.writes ++ [_]).countP c.makes = _
      rw [List.countP_append]
      cases c with
      | featureGates | migration => exact h.written _
  | update | change => exact ⟨h.counted, h.written, h.told⟩

theorem Consistent.run (h : Consistent w) : Consistent (run o w actions) := by
  induction actions using List.reverseRecOn with
  | nil => exact h
  | append_singleton actions a ih =>
    rw [run_append]
    exact ih.perform

/-- Only what is a pass of a controller is counted for it. -/
theorem tally_perform_other (other : ¬a.IsPass c) :
    (a.perform o w).metrics.tally c.name = w.metrics.tally c.name := by
  cases a with
  | offer c' object f elapsed =>
    rw [perform_offer]
    split
    · rename_i hobject
      have hne : c ≠ c' := fun heq => other ⟨heq.symm, hobject⟩
      rw [Controller.tally_pass, if_neg hne]
    · rfl
  | publish f clock =>
    have exit := Publication.run_exit f clock w
    show (Publication.run f clock w).2.metrics.tally _ = _
    generalize Publication.run f clock w = result at exit ⊢
    cases exit <;> rfl
  | update | change => rfl

theorem tally_perform_offer : ((Action.offer c Place.featureGate.name f elapsed).perform o w).metrics.tally c.name =
    (w.metrics.tally c.name).add (c.outcome o f w) := by
  rw [perform_offer, if_pos rfl, Controller.tally_pass, if_pos rfl]

/-- Every pass of a controller is counted once. -/
theorem total_run : ((run o w actions).metrics.tally c.name).total =
    (w.metrics.tally c.name).total + actions.countP fun a => a.IsPass c := by
  induction actions using List.reverseRecOn with
  | nil => rfl
  | append_singleton actions a ih =>
    rw [run_append, run_singleton, List.countP_append, List.countP_singleton, ← Nat.add_assoc, ← ih]
    by_cases hpass : a.IsPass c
    · obtain ⟨f, elapsed, rfl⟩ := exists_offer_of_isPass hpass
      rw [tally_perform_offer, Tally.total_add, if_pos (decide_eq_true hpass)]
    · rw [tally_perform_other hpass, if_neg (by simpa using hpass)]
      rfl

/-- The last pass of the controller, with the outcome under which it was counted. -/
def LastCounted (o : Operator) (w : World) (actions : List Action) (c : Controller) (outcome : Outcome) : Prop :=
  ∃ before f elapsed after, actions = before ++ .offer c Place.featureGate.name f elapsed :: after ∧
    (∀ a ∈ after, ¬a.IsPass c) ∧
    (run o w (before ++ [.offer c Place.featureGate.name f elapsed])).metrics.tally c.name =
      ((run o w before).metrics.tally c.name).add outcome

theorem lastCounted_error_iff :
    LastCounted o w actions c .error ↔ ∃ text, LastPass o w actions c (some text) := by
  constructor
  · rintro ⟨before, f, elapsed, after, hactions, hafter, hcount⟩
    rw [run_append, run_singleton, tally_perform_offer] at hcount
    obtain ⟨text, htext⟩ := Controller.outcome_eq_error_iff.mp (Tally.add_injective hcount)
    exact ⟨text, before, f, elapsed, after, hactions, hafter, htext.symm⟩
  · rintro ⟨text, before, f, elapsed, after, hactions, hafter, htext⟩
    refine ⟨before, f, elapsed, after, hactions, hafter, ?_⟩
    rw [run_append, run_singleton, tally_perform_offer, Controller.outcome_eq_error_iff.mpr ⟨text, htext.symm⟩]

theorem isDegraded_run_iff (unreported : w.status.outcomes = .empty)
    (own : ∀ controller failure, .update (.setOutcome controller failure) ∉ actions) :
    (run o w actions).status.isDegraded c.name = true ↔ LastCounted o w actions c .error := by
  rw [lastCounted_error_iff, OperatorStatus.isDegraded, Option.isSome_iff_exists]
  refine exists_congr fun text => ?_
  rw [Option.join_eq_some_iff, outcomes_run unreported own]
  constructor
  · rintro ⟨c', hname, hlast⟩
    cases Controller.name_injective hname
    exact hlast
  · intro hlast
    exact ⟨c, rfl, hlast⟩

theorem consistent_of_fresh (fresh : w.Fresh) : Consistent w := by
  refine ⟨?_, fun c => ?_, fun c => ?_⟩
  · rw [fresh.metrics]
    rfl
  · rw [fresh.metrics, fresh.writes]
    rfl
  · rw [fresh.metrics, fresh.events]
    rfl

/-- After any run of an operator that starts with nothing counted, the passes that were counted as having
    written are as many as the writes that were accepted and the events that were published. Every pass was
    counted once, and a controller is held to be degraded when its last pass was counted as failed. -/
theorem records_agree (fresh : w.Fresh)
    (own : ∀ controller failure, .update (.setOutcome controller failure) ∉ actions) :
    let after := run o w actions
    after.metrics.writesOf FeatureGate.kind.name = (after.metrics.tally Controller.featureGates.name).updated ∧
      ∀ c : Controller,
        after.writes.countP c.makes = (after.metrics.tally c.name).updated ∧
          after.events.countP c.tells = (after.metrics.tally c.name).updated ∧
          (after.metrics.tally c.name).total = actions.countP (fun a => a.IsPass c) ∧
          (after.status.isDegraded c.name = true ↔ LastCounted o w actions c .error) := by
  intro after
  have consistent : Consistent after := (consistent_of_fresh fresh).run
  refine ⟨consistent.counted, fun c => ⟨consistent.written c, consistent.told c, ?_, ?_⟩⟩
  · rw [total_run, fresh.metrics]
    exact Nat.zero_add _
  · exact isDegraded_run_iff fresh.outcomes own

end

/-- A write is refused, an object of another name is offered, and the write is accepted; then a retired feature
    set is selected and replaced, and a read fails. -/
def turbulence : List Action := [
  .offer .featureGates "cluster" { featureGateStatus := some "conflict" } ⟨0⟩,
  .offer .featureGates "other" .none ⟨0⟩,
  .offer .featureGates "cluster" .none ⟨0⟩,
  .publish .none fun _ => "t1",
  .change { attended with featureGate := some ⟨{ name := some "cluster" }, ⟨"LatencySensitive", none⟩, none⟩ },
  .offer .migration "cluster" .none ⟨0⟩,
  .offer .featureGates "cluster" { clusterVersion := some (.failed "timeout") } ⟨0⟩]

theorem records_agree_turbulence :
    let start := Session.start attended none "4.18.0"
    let after := run attendant start turbulence
    (start.Fresh ∧ ∀ controller failure, .update (.setOutcome controller failure) ∉ turbulence) ∧
      after.metrics.tally Controller.featureGates.name = ⟨1, 0, 0, 2⟩ ∧
      after.metrics.tally Controller.migration.name = ⟨1, 0, 0, 0⟩ ∧
      after.metrics.writesOf FeatureGate.kind.name = (after.metrics.tally Controller.featureGates.name).updated ∧
      ∀ c : Controller,
        after.writes.countP c.makes = (after.metrics.tally c.name).updated ∧
          after.events.countP c.tells = (after.metrics.tally c.name).updated ∧
          (after.metrics.tally c.name).total = turbulence.countP (fun a => a.IsPass c) ∧
          (after.status.isDegraded c.name = true ↔ LastCounted attendant start turbulence c .error) := by
  intro start after
  have fresh : start.Fresh := Session.fresh_start attended none "4.18.0"
  have own : ∀ controller failure, .update (.setOutcome controller failure) ∉ turbulence := by simp [turbulence]
  exact ⟨⟨fresh, own⟩, by decide +kernel, by decide +kernel, records_agree fresh own⟩

end Service

end GateOperator
