import GateOperator.Pass.Publication

/-!
The exits of a publication, with the world that each leaves. Whatever is written is the status just built,
and a build leaves the recorded versions as they are.
-/

namespace GateOperator.Publication

/-- The world after the status has been built. -/
def built (clock : Nat → String) (w : World) : World := { w with status := (w.status.build clock).2 }

/-- The world after the status has been built and written. -/
def published (clock : Nat → String) (w : World) : World :=
  let request := Write.clusterOperatorStatus (w.status.build clock).1
  { built clock w with cluster := w.cluster.apply request, writes := w.writes ++ [request] }.countWrite
    ClusterOperator.kind.name

/-- How a publication ends, and the world that it leaves. -/
inductive Exit (f : Faults) (clock : Nat → String) (w : World) : Pass Bool → Prop where
  | unreadable {text : String} (h : w.cluster.readClusterOperator f = .error text) :
      Exit f clock w (.error (.cluster text), w)
  | missing (h : w.cluster.readClusterOperator f = .ok none) : Exit f clock w (.ok false, w)
  | reported {co : ClusterOperator} (read : w.cluster.readClusterOperator f = .ok (some co))
      (h : OperatorStatus.isReported (co.status.getD .empty) (w.status.build clock).1 = true) :
      Exit f clock w (.ok false, built clock w)
  | refused {co : ClusterOperator} {text : String} (read : w.cluster.readClusterOperator f = .ok (some co))
      (differs : OperatorStatus.isReported (co.status.getD .empty) (w.status.build clock).1 = false)
      (h : f.clusterOperatorStatus = some text) : Exit f clock w (.error (.cluster text), built clock w)
  | published {co : ClusterOperator} (read : w.cluster.readClusterOperator f = .ok (some co))
      (differs : OperatorStatus.isReported (co.status.getD .empty) (w.status.build clock).1 = false)
      (h : f.clusterOperatorStatus = none) : Exit f clock w (.ok true, published clock w)

/-- A publication ends in one of the listed ways. -/
theorem run_exit (f : Faults) (clock : Nat → String) (w : World) : Exit f clock w (run f clock w) := by
  unfold run
  split
  · rename_i h
    exact .unreadable h
  · rename_i h
    exact .missing h
  · rename_i co read
    dsimp only
    split
    · rename_i h
      exact .reported read h
    · rename_i differs
      have differs := Bool.not_eq_true _ ▸ differs
      rcases World.write_cases { w with status := (w.status.build clock).2 } f
        (.clusterOperatorStatus (w.status.build clock).1) with ⟨h, hw⟩ | ⟨text, h, hw⟩
      · rw [hw]
        exact .published read differs h
      · rw [hw]
        exact .refused read differs h

section
variable {f : Faults} {clock : Nat → String} {w : World}

/-- Only a failing read or write makes a publication fail. -/
theorem exists_run_eq_ok (readable : f.clusterOperator = none) (writable : f.clusterOperatorStatus = none) :
    ∃ published, (run f clock w).1 = .ok published := by
  have exit := run_exit f clock w
  generalize run f clock w = result at exit ⊢
  cases exit with
  | unreadable h =>
    rw [Cluster.readClusterOperator, readable] at h
    cases h
  | missing | reported | published => exact ⟨_, rfl⟩
  | refused _ _ h =>
    rw [writable] at h
    cases h

/-- Where everything is reported already nothing is written, and a publication that can read finds that out. -/
theorem run_of_isReported (reported : ∀ co, w.cluster.clusterOperator = some co →
      OperatorStatus.isReported (co.status.getD .empty) (w.status.build clock).1 = true) :
    (run f clock w).2.cluster = w.cluster ∧ (run f clock w).2.writes = w.writes ∧
      (f.clusterOperator = none → (run f clock w).1 = .ok false) := by
  have exit := run_exit f clock w
  generalize run f clock w = result at exit ⊢
  cases exit with
  | unreadable h =>
    refine ⟨rfl, rfl, fun readable => ?_⟩
    rw [Cluster.readClusterOperator, readable] at h
    cases h
  | missing | reported => exact ⟨rfl, rfl, fun _ => rfl⟩
  | refused read differs | published read differs =>
    rw [reported _ (ReadFault.eq_some_of_read read)] at differs
    cases differs

end

end GateOperator.Publication
