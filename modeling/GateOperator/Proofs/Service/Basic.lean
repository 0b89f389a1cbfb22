import GateOperator.Controller.Basic
import GateOperator.Proofs.Pass.FeatureGates
import GateOperator.Proofs.Pass.Migration
import GateOperator.Proofs.Pass.Publication
import GateOperator.Proofs.Status.Updates

/-!
An operator in service: objects are offered to its controllers, its status is updated and published, and
meanwhile the cluster changes, in any order and with any failures. Whatever happens, the operator status goes
through updates and nothing else.
-/

namespace GateOperator

namespace Controller

/-- What is wrong with a pass of the controller; nothing if it goes well. -/
def failure? (c : Controller) (o : Operator) (f : Faults) (w : World) : Option String :=
  match c with
  | featureGates =>
    match (FeatureGatePass.run o f w).1 with
    | .ok _ => none
    | .error e => some e.message
  | migration =>
    match (MigrationPass.run f w).1 with
    | .ok _ => none
    | .error e => some e.message

theorem name_injective {c c' : Controller} (h : c.name = c'.name) : c = c' := by
  revert h
  cases c <;> cases c' <;> decide

theorem name_ne_empty (c : Controller) : c.name ≠ "" := by
  cases c <;> decide

end Controller

namespace Service

/-- Something that happens to an operator in service. -/
inductive Action where
  | offer (c : Controller) (object : String) (f : Faults) (elapsed : Duration)
  | update (u : OperatorStatus.Update)
  | publish (f : Faults) (clock : Nat → String)
  /-- Objects of the cluster are changed from outside. -/
  | change (cluster : Cluster)

namespace Action

/-- The world after an action. -/
def perform (o : Operator) (w : World) : Action → World
  | offer c object f elapsed => (c.reconcile object o f elapsed w).1
  | update u => { w with status := u.perform w.status }
  | publish f clock => (Publication.run f clock w).2
  | change cluster => { w with cluster }

/-- A controller whose outcome is recorded has a name. -/
def Named : Action → Prop
  | update u => u.Named
  | offer _ _ _ _ | publish _ _ | change _ => True

/-- The controller makes a pass: it is offered the object that it works for. -/
def IsPass (c : Controller) : Action → Prop
  | offer other object _ _ => other = c ∧ object = Place.featureGate.name
  | update _ | publish _ _ | change _ => False

instance : DecidablePred Named
  | update u => inferInstanceAs (Decidable u.Named)
  | offer _ _ _ _ | publish _ _ | change _ => inferInstanceAs (Decidable True)

instance {c : Controller} : DecidablePred (IsPass c)
  | offer _ _ _ _ => inferInstanceAs (Decidable (_ ∧ _))
  | update _ | publish _ _ | change _ => inferInstanceAs (Decidable False)

end Action

/-- The world after actions in turn. -/
def run (o : Operator) (w : World) (actions : List Action) : World := actions.foldl (Action.perform o) w

section
variable {o : Operator} {w : World} {a : Action} {actions more : List Action} {c : Controller} {f : Faults}
  {object : String} {elapsed : Duration} {clock : Nat → String}

@[simp] theorem run_nil : run o w [] = w := rfl

@[simp] theorem run_append : run o w (actions ++ more) = run o (run o w actions) more := by
  simp [run]

@[simp] theorem run_singleton : run o w [a] = a.perform o w := rfl

/-- A pass of a controller records the running release, if anything, and then how it has ended. -/
theorem status_pass : ∃ versions : List OperatorStatus.Update,
    (∀ u ∈ versions, ∃ name version, u = .setVersion name version) ∧
      (c.pass o f elapsed w).1.status =
        OperatorStatus.run w.status (versions ++ [.setOutcome c.name (c.failure? o f w)]) := by
  cases c with
  | featureGates =>
    have exit := FeatureGatePass.run_exit o f w
    unfold Controller.pass Controller.failure?
    generalize FeatureGatePass.run o f w = result at exit ⊢
    cases exit with
    | unreadable | featureGateMissing | clusterVersionMissing | unresolved | refused => exact ⟨[], nofun, rfl⟩
    | unchanged | updated => exact ⟨[.setVersion _ _], by simp, rfl⟩
  | migration =>
    have exit := MigrationPass.run_exit f w
    unfold Controller.pass Controller.failure?
    generalize MigrationPass.run f w = result at exit ⊢
    cases exit with
    | unreadable | featureGateMissing | notNeeded | refused | migrated => exact ⟨[], nofun, rfl⟩

theorem perform_offer : (Action.offer c object f elapsed).perform o w =
    if object = Place.featureGate.name then (c.pass o f elapsed w).1 else w := by
  show (c.reconcile object o f elapsed w).1 = _
  unfold Controller.reconcile
  split <;> rfl

theorem status_perform : ∃ updates : List OperatorStatus.Update, (a.Named → ∀ u ∈ updates, u.Named) ∧
    (a.perform o w).status = OperatorStatus.run w.status updates := by
  cases a with
  | offer c object f elapsed =>
    rw [perform_offer]
    split
    · obtain ⟨versions, hversions, hstatus⟩ := status_pass (o := o) (w := w) (c := c) (f := f)
      refine ⟨_, fun _ u hu => ?_, hstatus⟩
      rcases List.mem_append.mp hu with hu | hu
      · obtain ⟨_, _, rfl⟩ := hversions u hu
        trivial
      · cases List.mem_singleton.mp hu
        exact c.name_ne_empty
    · exact ⟨[], nofun, rfl⟩
  | update u => exact ⟨[u], by simp [Action.Named], rfl⟩
  | publish f clock =>
    show ∃ updates, _ ∧ (Publication.run f clock w).2.status = _
    have exit := Publication.run_exit f clock w
    generalize Publication.run f clock w = result at exit ⊢
    cases exit with
    | unreadable | missing => exact ⟨[], nofun, rfl⟩
    | reported | refused | published => exact ⟨[.build clock], by simp [OperatorStatus.Update.Named], rfl⟩
  | change cluster => exact ⟨[], nofun, rfl⟩

theorem status_run (named : ∀ a ∈ actions, a.Named) : ∃ updates : List OperatorStatus.Update, (∀ u ∈ updates, u.Named) ∧
    (run o w actions).status = OperatorStatus.run w.status updates := by
  induction actions using List.reverseRecOn with
  | nil => exact ⟨[], nofun, rfl⟩
  | append_singleton actions a ih =>
    obtain ⟨updates, hnamed, hstatus⟩ := ih fun b hb => named b (by simp [hb])
    obtain ⟨more, hmore, hperform⟩ := status_perform (o := o) (w := run o w actions) (a := a)
    refine ⟨updates ++ more, fun u hu => ?_, ?_⟩
    · rcases List.mem_append.mp hu with hu | hu
      · exact hnamed u hu
      · exact hmore (named a (by simp)) u hu
    · rw [run_append, run_singleton, hperform, hstatus, OperatorStatus.run_append]

end

end Service

end GateOperator
