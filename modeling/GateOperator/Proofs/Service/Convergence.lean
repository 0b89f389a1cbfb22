import GateOperator.Proofs.Service.Basic
import GateOperator.Proofs.Session.Basic

/-!
Publishing again and again. A build leaves an operator status that is built again as it is, so the next
publication compares, and writes, the same. Main statement: after a publication that goes well everything is
reported and nothing more is written, and after one whose write has failed the next that goes well writes what
that one was to write, as long as nothing is recorded in between.
-/

namespace GateOperator

namespace OperatorStatus

/-- The status that says what is recorded and was built last. -/
def report (s : OperatorStatus) : ClusterOperatorStatus := ⟨s.conditions, s.operandVersions⟩

/-- Building finds nothing to change, whatever the clock says. -/
def Steady (s : OperatorStatus) : Prop := ∀ clock, s.build clock = (s.report, s)

theorem steady_build {s : OperatorStatus} {clock : Nat → String} (sound : s.Sound) : (s.build clock).2.Steady :=
  fun later => build_build sound later

end OperatorStatus

/-- The cluster operator object says what the status says, in any order and with any transition times. -/
def Cluster.Reports (c : Cluster) (s : ClusterOperatorStatus) : Prop :=
  ∃ co, c.clusterOperator = some co ∧ (co.status.getD .empty).versions = s.versions ∧
    ((co.status.getD .empty).conditions.map (·.timeless)).Perm (s.conditions.map (·.timeless))

namespace Service

namespace Action

/-- Nothing is recorded, and nothing is stored except by a publication. -/
def Idle : Action → Prop
  | update (.build _) | publish _ _ => True
  | update (.setVersion _ _) | update (.setOutcome _ _) | offer _ _ _ _ | change _ => False

/-- Nothing is recorded, but the cluster may be changed from outside. -/
def Quiet : Action → Prop
  | change _ => True
  | a => a.Idle

end Action

/-- However often the status is built and published, nothing is written, and a publication that can read finds
    everything reported. -/
def UpToDate (o : Operator) (w : World) : Prop :=
  ∀ idle, (∀ a ∈ idle, Action.Idle a) → (run o w idle).cluster = w.cluster ∧ (run o w idle).writes = w.writes ∧
    ∀ f clock, f.clusterOperator = none → (Publication.run f clock (run o w idle)).1 = .ok false

/-- As long as nothing is recorded, only this status is ever written; and it is, and is stored then, by the
    first publication that goes well, unless something else is stored before. -/
structure Outstanding (o : Operator) (w : World) (s : ClusterOperatorStatus) : Prop where
  only : ∀ quiet, (∀ a ∈ quiet, Action.Quiet a) →
    ∃ n, (run o w quiet).writes = w.writes ++ List.replicate n (.clusterOperatorStatus s)
  next : ∀ idle, (∀ a ∈ idle, Action.Idle a) → (run o w idle).writes = w.writes → ∀ f clock published,
    f.clusterOperator ≠ some .notFound → (Publication.run f clock (run o w idle)).1 = .ok published →
    published = true ∧
      (Publication.run f clock (run o w idle)).2.writes = w.writes ++ [.clusterOperatorStatus s] ∧
      ∃ co, (Publication.run f clock (run o w idle)).2.cluster.clusterOperator = some co ∧ co.status = some s

section
variable {o : Operator} {w : World} {a : Action} {actions : List Action} {f : Faults} {clock : Nat → String}
  {published : Bool} {co : ClusterOperator}

theorem Action.Idle.quiet (h : a.Idle) : a.Quiet := by
  cases a with
  | change => trivial
  | offer | update | publish => exact h

/-! ### While nothing is recorded -/

theorem publish_steady (f : Faults) (clock : Nat → String) (steady : w.status.Steady) :
    (Publication.run f clock w).2.status = w.status ∧
    ((Publication.run f clock w).2.writes = w.writes ∧ (Publication.run f clock w).2.cluster = w.cluster ∨
      (Publication.run f clock w).2.writes = w.writes ++ [.clusterOperatorStatus w.status.report]) := by
  have exit := Publication.run_exit f clock w
  generalize Publication.run f clock w = result at exit ⊢
  cases exit with
  | unreadable | missing => exact ⟨rfl, .inl ⟨rfl, rfl⟩⟩
  | reported | refused => exact ⟨congrArg Prod.snd (steady clock), .inl ⟨rfl, rfl⟩⟩
  | published =>
    refine ⟨congrArg Prod.snd (steady clock), .inr ?_⟩
    show w.writes ++ [.clusterOperatorStatus (w.status.build clock).1] = _
    rw [steady clock]

theorem perform_quiet (steady : w.status.Steady) (quiet : a.Quiet) : (a.perform o w).status = w.status ∧
    ((a.perform o w).writes = w.writes ∧ (a.Idle → (a.perform o w).cluster = w.cluster) ∨
      (a.perform o w).writes = w.writes ++ [.clusterOperatorStatus w.status.report]) := by
  cases a with
  | offer => exact quiet.elim
  | update u =>
    cases u with
    | setVersion | setOutcome => exact quiet.elim
    | build clock => exact ⟨congrArg Prod.snd (steady clock), .inl ⟨rfl, fun _ => rfl⟩⟩
  | publish f clock =>
    obtain ⟨hstatus, ⟨hwrites, hcluster⟩ | hwrites⟩ := publish_steady f clock steady
    · exact ⟨hstatus, .inl ⟨hwrites, fun _ => hcluster⟩⟩
    · exact ⟨hstatus, .inr hwrites⟩
  | change => exact ⟨rfl, .inl ⟨rfl, False.elim⟩⟩

/-- The status stays as it is, and whatever is written is what it says. -/
theorem run_quiet (steady : w.status.Steady) (quiet : ∀ a ∈ actions, a.Quiet) :
    (run o w actions).status = w.status ∧
      ∃ n, (run o w actions).writes = w.writes ++ List.replicate n (.clusterOperatorStatus w.status.report) ∧
        ((∀ a ∈ actions, a.Idle) → n = 0 → (run o w actions).cluster = w.cluster) := by
  induction actions using List.reverseRecOn with
  | nil => exact ⟨rfl, 0, by simp, fun _ _ => rfl⟩
  | append_singleton actions a ih =>
    obtain ⟨hstatus, n, hwrites, hcluster⟩ := ih fun b hb => quiet b (by simp [hb])
    obtain ⟨hlast, ⟨hnone, hsame⟩ | hone⟩ := perform_quiet (o := o) (hstatus ▸ steady) (quiet a (by simp))
    · refine ⟨by rw [run_append]; exact hlast.trans hstatus, n, by rw [run_append]; exact hnone.trans hwrites, ?_⟩
      intro idle hn
      rw [run_append]
      exact (hsame (idle a (by simp))).trans (hcluster (fun b hb => idle b (by simp [hb])) hn)
    · refine ⟨by rw [run_append]; exact hlast.trans hstatus, n + 1, ?_, fun _ => nofun⟩
      rw [run_append, run_singleton, hone, hwrites, hstatus, List.replicate_succ', List.append_assoc]

theorem run_idle (steady : w.status.Steady) (idle : ∀ a ∈ actions, a.Idle)
    (unwritten : (run o w actions).writes = w.writes) :
    (run o w actions).status = w.status ∧ (run o w actions).cluster = w.cluster := by
  obtain ⟨hstatus, n, hwrites, hcluster⟩ := run_quiet (o := o) steady fun a ha => (idle a ha).quiet
  refine ⟨hstatus, hcluster idle ?_⟩
  have := congrArg List.length (unwritten.symm.trans hwrites)
  rw [List.length_append, List.length_replicate] at this
  omega

/-! ### Convergence -/

/-- What is reported stays reported. -/
theorem upToDate_of_reported (steady : w.status.Steady)
    (reported : ∀ co, w.cluster.clusterOperator = some co →
      OperatorStatus.isReported (co.status.getD .empty) w.status.report = true) : UpToDate o w := by
  intro idle hidle
  have still : (run o w idle).cluster = w.cluster ∧ (run o w idle).writes = w.writes := by
    induction idle using List.reverseRecOn with
    | nil => exact ⟨rfl, rfl⟩
    | append_singleton idle a ih =>
      have earlier : ∀ b ∈ idle, b.Idle := fun b hb => hidle b (by simp [hb])
      obtain ⟨hcluster, hwrites⟩ := ih earlier
      have hstatus := (run_idle steady earlier hwrites).1
      have last := hidle a (by simp)
      rw [run_append, run_singleton]
      cases a with
      | offer | change => exact last.elim
      | update => exact ⟨hcluster, hwrites⟩
      | publish f clock =>
        have unchanged : ∀ co, (run o w idle).cluster.clusterOperator = some co →
            OperatorStatus.isReported (co.status.getD .empty) ((run o w idle).status.build clock).1 = true := by
          rw [hcluster, hstatus, steady clock]
          exact reported
        obtain ⟨hc, hw, -⟩ := Publication.run_of_isReported (f := f) unchanged
        exact ⟨hc.trans hcluster, hw.trans hwrites⟩
  refine ⟨still.1, still.2, fun f clock readable => ?_⟩
  have hstatus := (run_idle steady hidle still.2).1
  refine (Publication.run_of_isReported ?_).2.2 readable
  rw [still.1, hstatus, steady clock]
  exact reported

/-- What is not reported is written by the next publication that goes well. -/
theorem outstanding_of_differs (steady : w.status.Steady) (existing : w.cluster.clusterOperator = some co)
    (differs : OperatorStatus.isReported (co.status.getD .empty) w.status.report = false) :
    Outstanding o w w.status.report where
  only quiet hquiet := by
    obtain ⟨-, n, hwrites, -⟩ := run_quiet (o := o) steady hquiet
    exact ⟨n, hwrites⟩
  next idle hidle unwritten f clock published truthful ok := by
    obtain ⟨hstatus, hcluster⟩ := run_idle steady hidle unwritten
    have exit := Publication.run_exit f clock (run o w idle)
    generalize Publication.run f clock (run o w idle) = result at exit ok ⊢
    have found {d : Option ClusterOperator} (read : (run o w idle).cluster.readClusterOperator f = .ok d) :
        d = some co :=
      (ReadFault.eq_of_read truthful read).trans (by rw [hcluster, existing])
    cases exit with
    | unreadable | refused => cases ok
    | missing read => cases found read
    | reported read same =>
      cases found read
      rw [hstatus, steady clock, differs] at same
      cases same
    | published read =>
      cases ok
      refine ⟨rfl, ?_, co.withStatus w.status.report, ?_, rfl⟩
      · show (run o w idle).writes ++ [.clusterOperatorStatus ((run o w idle).status.build clock).1] = _
        rw [unwritten, hstatus, steady clock]
      · show ((run o w idle).cluster.apply (.clusterOperatorStatus
          ((run o w idle).status.build clock).1)).clusterOperator = _
        rw [hstatus, steady clock, hcluster, Cluster.apply, existing]
        rfl

end

section
variable {o : Operator} {cluster : Cluster} {persisted : Option ClusterOperatorStatus} {version : String}
  {actions : List Action} {co : ClusterOperator}

theorem publication_converges (f : Faults) (clock : Nat → String)
    (distinct : ∀ reported, persisted = some reported → Conditions.Distinct reported.conditions)
    (named : ∀ a ∈ actions, a.Named)
    (existing : (run o (Session.start cluster persisted version) actions).cluster.clusterOperator = some co)
    (truthful : f.clusterOperator ≠ some .notFound) :
    let w := run o (Session.start cluster persisted version) actions
    let built := (w.status.build clock).1
    let result := Publication.run f clock w
    (f.clusterOperator = none → f.clusterOperatorStatus = none → ∃ published, result.1 = .ok published) ∧
    (∀ published, result.1 = .ok published →
      result.2.cluster.Reports built ∧ built.versions = w.status.operandVersions ∧ UpToDate o result.2) ∧
    (∀ e, f.clusterOperator = none → result.1 = .error e →
      result.2.cluster = w.cluster ∧ result.2.writes = w.writes ∧ Outstanding o result.2 built) := by
  intro w built result
  refine ⟨Publication.exists_run_eq_ok, ?_⟩
  obtain ⟨updates, hnamed, hstatus⟩ := status_run (o := o) (w := Session.start cluster persisted version) named
  have sound : w.status.Sound := by
    show (run o (Session.start cluster persisted version) actions).status.Sound
    rw [hstatus]
    exact OperatorStatus.sound_run (OperatorStatus.sound_seed distinct) hnamed
  have inOrder : Conditions.Distinct built.conditions :=
    (OperatorStatus.inOrder_buildConditions sound.distinct).distinct
  have steady : (Publication.built clock w).status.Steady := OperatorStatus.steady_build sound
  have found {d : Option ClusterOperator} (read : w.cluster.readClusterOperator f = .ok d) : d = some co :=
    (ReadFault.eq_of_read truthful read).trans existing
  have exit : Publication.Exit f clock w result := Publication.run_exit f clock w
  clear_value result
  cases exit with
  | unreadable h =>
    refine ⟨fun _ h => (by cases h), fun e readable _ => ?_⟩
    rw [Cluster.readClusterOperator, readable] at h
    cases h
  | missing h => cases found h
  | reported read same =>
    cases found read
    obtain ⟨hversions, hconditions⟩ := (OperatorStatus.isReported_iff inOrder).mp same
    refine ⟨fun _ _ => ⟨⟨co, existing, hversions, hconditions⟩, rfl, upToDate_of_reported steady fun d hd => ?_⟩,
      fun _ _ h => by cases h⟩
    cases existing.symm.trans hd
    exact same
  | refused read differs =>
    cases found read
    exact ⟨fun _ h => (by cases h), fun e _ _ => ⟨rfl, rfl, outstanding_of_differs steady existing differs⟩⟩
  | published read =>
    have stored : (Publication.published clock w).cluster.clusterOperator = some (co.withStatus built) := by
      show (w.cluster.apply (.clusterOperatorStatus built)).clusterOperator = _
      rw [Cluster.apply, existing]
      rfl
    refine ⟨fun _ _ => ⟨⟨_, stored, rfl, .refl _⟩, rfl, upToDate_of_reported steady fun d hd => ?_⟩,
      fun _ _ h => by cases h⟩
    cases stored.symm.trans hd
    exact OperatorStatus.isReported_self inOrder

/-- An operator of 4.18.0, and a cluster that is told of it. -/
def publisher : Operator := ⟨⟨.empty⟩, "4.18.0"⟩

def told : Cluster where
  clusterOperator := some ⟨{ name := some "config-operator" }, {}, none⟩

/-- What was reported at the release before, with a condition that nobody here knows. -/
def toldBefore : ClusterOperatorStatus where
  conditions := [⟨"Upgradeable", "False", none, none, none⟩, ⟨"Custom", "Unknown", none, none, some "t0"⟩]
  versions := [⟨"operator", "4.17.0"⟩]

/-- A controller fails, the status is built, and the controller recovers. -/
def incident : List Action := [
  .update (.setOutcome "FeatureGateController" (some "timeout")), .update (.build fun _ => "t1"),
  .update (.setOutcome "FeatureGateController" none)]

def conflict : Faults := { clusterOperatorStatus := some "conflict" }

/-- One attempt to publish this fails, and another one goes well. -/
theorem publication_converges_conflict :
    let w := run publisher (Session.start told (some toldBefore) "4.18.0") incident
    let built := (w.status.build fun _ => "t2").1
    (∀ reported, some toldBefore = some reported → Conditions.Distinct reported.conditions) ∧
      (∀ a ∈ incident, a.Named) ∧
      w.cluster.clusterOperator = some ⟨{ name := some "config-operator" }, {}, none⟩ ∧
      (Publication.run conflict (fun _ => "t2") w).1 = .error (.cluster "conflict") ∧
      Outstanding publisher (Publication.run conflict (fun _ => "t2") w).2 built ∧
      (Publication.run .none (fun _ => "t2") w).1 = .ok true ∧
      (Publication.run .none (fun _ => "t2") w).2.cluster.Reports built ∧
      UpToDate publisher (Publication.run .none (fun _ => "t2") w).2 := by
  intro w built
  have distinct : ∀ reported, some toldBefore = some reported → Conditions.Distinct reported.conditions := by
    rintro _ ⟨⟩
    decide
  have named : ∀ a ∈ incident, a.Named := by decide
  have existing : w.cluster.clusterOperator = some ⟨{ name := some "config-operator" }, {}, none⟩ := rfl
  have fails : (Publication.run conflict (fun _ => "t2") w).1 = .error (.cluster "conflict") := rfl
  have succeeds : (Publication.run .none (fun _ => "t2") w).1 = .ok true := rfl
  obtain ⟨-, -, hfails⟩ := publication_converges conflict (fun _ => "t2") distinct named existing (by decide)
  obtain ⟨-, hsucceeds, -⟩ := publication_converges .none (fun _ => "t2") distinct named existing (by decide)
  obtain ⟨-, -, outstanding⟩ := hfails _ rfl fails
  obtain ⟨reports, -, upToDate⟩ := hsucceeds _ succeeds
  exact ⟨distinct, named, existing, fails, outstanding, succeeds, reports, upToDate⟩

end

end Service

end GateOperator
