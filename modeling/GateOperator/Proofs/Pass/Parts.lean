import GateOperator.Proofs.Pass.FeatureGates

/-!
The pass over the recorded gates taken apart into its reads and its write, between which other things may
happen. When nothing does, the parts in a row are the pass.
-/

namespace GateOperator

namespace FeatureGatePass

/-- The write that is to be made upon a reading; none when all is recorded or the gates cannot be resolved. -/
def Reading.write? (o : Operator) (r : Reading) : Option Write :=
  match r.plan o with
  | .error _ => none
  | .ok p => if p.snapshots = FeatureGate.snapshots r.featureGate then none else some (r.write p)

/-- How far a pass has come. -/
inductive Progress where
  | begun
  | hasFeatureGate (featureGate : FeatureGate)
  | hasClusterVersion (featureGate : FeatureGate) (clusterVersion : ClusterVersion)
  | hasAll (reading : Reading)
  | ended

namespace Progress

/-- The next read of a pass. The pass ends when the read fails or lacks an object. -/
def read (c : Cluster) (f : Faults) : Progress → Progress
  | begun =>
    match c.readFeatureGate f with
    | .ok (some featureGate) => hasFeatureGate featureGate
    | _ => ended
  | hasFeatureGate featureGate =>
    match c.readClusterVersion f with
    | .ok (some clusterVersion) => hasClusterVersion featureGate clusterVersion
    | _ => ended
  | hasClusterVersion featureGate clusterVersion =>
    match c.readNodeConfig f with
    | .ok nodeConfig => hasAll ⟨featureGate, clusterVersion, nodeConfig⟩
    | .error _ => ended
  | hasAll reading => hasAll reading
  | ended => ended

/-- The copy of the feature gate object that a pass works with. -/
def copy? : Progress → Option FeatureGate
  | hasFeatureGate featureGate => some featureGate
  | hasClusterVersion featureGate _ => some featureGate
  | hasAll reading => some reading.featureGate
  | begun => none
  | ended => none

/-- What a pass has read, once it has read everything. -/
def reading? : Progress → Option Reading
  | hasAll reading => some reading
  | _ => none

end Progress

section
variable {c : Cluster} {o : Operator} {f : Faults} {w : World} {p : Progress} {copy : FeatureGate} {r : Reading}
  {write : Write}

theorem Reading.write?_eq_some_iff :
    r.write? o = some write ↔
      ∃ p, r.plan o = .ok p ∧ p.snapshots ≠ FeatureGate.snapshots r.featureGate ∧ r.write p = write := by
  unfold Reading.write?
  split
  · rename_i hplan
    simp [hplan]
  · rename_i p hplan
    split
    · rename_i same
      simp [hplan, same]
    · rename_i differs
      simp [hplan, differs]

theorem Progress.reading?_eq_some_iff : p.reading? = some r ↔ p = .hasAll r := by
  cases p <;> simp [Progress.reading?]

theorem Progress.copy?_read (h : (p.read c f).copy? = some copy) : p.copy? = some copy ∨ c.featureGate = some copy := by
  cases p with
  | begun =>
    simp only [read] at h
    split at h
    · rename_i featureGate hread
      cases h
      exact .inr (ReadFault.eq_some_of_read hread)
    · cases h
  | hasFeatureGate featureGate =>
    simp only [read] at h
    split at h
    · exact .inl h
    · cases h
  | hasClusterVersion featureGate clusterVersion =>
    simp only [read] at h
    split at h
    · exact .inl h
    · cases h
  | hasAll reading => exact .inl h
  | ended => cases h

/-- Reads in a row are a look at the cluster. -/
theorem reading?_read :
    (((Progress.begun.read c f).read c f).read c f).reading? =
      match look c f with
      | .ok (.complete r) => some r
      | _ => none := by
  rcases hgate : c.readFeatureGate f with text | (_ | featureGate) <;>
    rcases hversion : c.readClusterVersion f with text | (_ | clusterVersion) <;>
    rcases hnode : c.readNodeConfig f with text | nodeConfig <;>
    simp [look, Progress.read, Progress.reading?, hgate, hversion, hnode, bind, Except.bind, pure, Except.pure]

/-- A pass as a whole makes the write that is to be made upon its reads in a row. -/
theorem writes_run_eq (h : f.featureGateStatus = none) :
    (run o f w).2.writes = w.writes ++
      ((((Progress.begun.read w.cluster f).read w.cluster f).read w.cluster f).reading?.bind (·.write? o)).toList := by
  rw [reading?_read]
  have exit := run_exit o f w
  generalize run o f w = result at exit ⊢
  cases exit with
  | unreadable hlook | featureGateMissing hlook | clusterVersionMissing hlook => simp [hlook]
  | unresolved read hplan => simp [read, Reading.write?, hplan]
  | unchanged read hplan same => simp [read, Reading.write?, hplan, same, World.achieve]
  | refused _ _ _ hrefused => cases h.symm.trans hrefused
  | updated read hplan differs =>
    simp [read, Reading.write?, hplan, differs, recorded, World.countWrite, World.publish, World.achieve]

end

end FeatureGatePass

end GateOperator
