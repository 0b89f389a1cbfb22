import GateOperator.Pass.FeatureGates
import GateOperator.Proofs.Data.Traversal

/-!
The exits of the pass over the recorded gates, one by one, with the world that each leaves. Main statement:
a pass that fails or lacks an object leaves the world as it was; any other pass leaves the merged snapshots
in place, with one write and one event if they were not in place before and with none if they were.
-/

namespace GateOperator

theorem FeatureGateSpec.version_of_snapshot {spec : FeatureGateSpec} {c : Catalog} {version : String}
    {observed : Observations} {s : Snapshot} (h : spec.snapshot c version observed = .ok s) : s.version = version := by
  obtain ⟨p, -, rfl⟩ := Except.map_eq_ok_iff.mp h
  rfl

/-- Where something is recorded there is a status, which is what is recorded. -/
theorem FeatureGate.withStatus_of_snapshots {fg : FeatureGate} {snapshots : List Snapshot}
    (recorded : snapshots = FeatureGate.snapshots fg) (some : snapshots ≠ []) :
    fg.withStatus ⟨snapshots, FeatureGate.conditions fg⟩ = fg := by
  obtain ⟨metadata, spec, status⟩ := fg
  cases status with
  | none => exact absurd recorded some
  | some status =>
    rw [recorded]
    rfl

/-- The reads of a pass go well. -/
structure Faults.Readable (f : Faults) : Prop where
  featureGate : f.featureGate = .none
  clusterVersion : f.clusterVersion = .none
  nodeConfig : f.nodeConfig = .none

/-- The snapshots that the cluster has recorded; none without a feature gate object. -/
def Cluster.snapshots (c : Cluster) : List Snapshot := (c.featureGate.map FeatureGate.snapshots).getD []

namespace FeatureGatePass

namespace Reading

/-- The reading is what the cluster holds, with the node configuration as far as it can be read. -/
structure IsOf (r : Reading) (c : Cluster) (f : Faults) : Prop where
  featureGate : c.featureGate = some r.featureGate
  clusterVersion : c.clusterVersion = some r.clusterVersion
  nodeConfig : c.readNodeConfig f = .ok r.nodeConfig

section
variable {r : Reading} {c : Cluster} {f : Faults} {o : Operator} {p : Plan}

/-- A plan holds the snapshot of the running release and the snapshots merged with it. -/
theorem plan_eq_ok_iff :
    r.plan o = .ok p ↔
      r.featureGate.spec.snapshot o.catalog o.version (Observations.ofNode r.nodeConfig) = .ok p.current ∧
        p.snapshots = History.merge p.current (FeatureGate.snapshots r.featureGate)
          (History.knownVersions o.version r.history) := by
  rw [plan, Except.bind_eq_ok_iff]
  constructor
  · rintro ⟨current, hcurrent, h⟩
    cases h
    exact ⟨hcurrent, rfl⟩
  · rintro ⟨hcurrent, hsnapshots⟩
    refine ⟨p.current, hcurrent, ?_⟩
    rw [← hsnapshots]
    rfl

end

end Reading

/-- What a look at the cluster tells of it. -/
theorem look_eq_ok {c : Cluster} {f : Faults} {found : Finding} (h : look c f = .ok found) :
    match found with
    | .featureGateMissing => c.readFeatureGate f = .ok none
    | .clusterVersionMissing => c.readClusterVersion f = .ok none
    | .complete r => r.IsOf c f := by
  obtain ⟨fg, hfg, h⟩ := Except.bind_eq_ok_iff.mp h
  cases fg with
  | none =>
    cases h
    exact hfg
  | some fg =>
    obtain ⟨cv, hcv, h⟩ := Except.bind_eq_ok_iff.mp h
    cases cv with
    | none =>
      cases h
      exact hcv
    | some cv =>
      obtain ⟨node, hnode, h⟩ := Except.bind_eq_ok_iff.mp h
      cases h
      exact ⟨ReadFault.eq_some_of_read hfg, ReadFault.eq_some_of_read hcv, hnode⟩

/-- A look that can read everything finds what is there. -/
theorem look_of_readable {c : Cluster} {f : Faults} {fg : FeatureGate} {cv : ClusterVersion} (readable : f.Readable)
    (gate : c.featureGate = some fg) (version : c.clusterVersion = some cv) :
    look c f = .ok (.complete ⟨fg, cv, c.nodeConfig⟩) := by
  have hgate : c.readFeatureGate f = .ok (some fg) := by
    rw [Cluster.readFeatureGate, readable.featureGate, gate]
    rfl
  have hversion : c.readClusterVersion f = .ok (some cv) := by
    rw [Cluster.readClusterVersion, readable.clusterVersion, version]
    rfl
  have hnode : c.readNodeConfig f = .ok c.nodeConfig := by
    rw [Cluster.readNodeConfig, readable.nodeConfig]
    rfl
  simp only [look, hgate, hversion, hnode, bind, Except.bind, pure, Except.pure]

/-- The world after a plan has been recorded. -/
def recorded (o : Operator) (w : World) (r : Reading) (p : Plan) : World :=
  let w := { w with cluster := w.cluster.apply (r.write p), writes := w.writes ++ [r.write p] }
  ((w.countWrite FeatureGate.kind.name).publish (.ofUpdate r.featureGate p.current)).achieve o.version

theorem cluster_recorded {o : Operator} {w : World} {r : Reading} {p : Plan}
    (stored : w.cluster.featureGate = some r.featureGate) :
    (recorded o w r p).cluster = { w.cluster with
      featureGate := some (r.featureGate.withStatus ⟨p.snapshots, FeatureGate.conditions r.featureGate⟩) } := by
  show w.cluster.apply (r.write p) = _
  rw [Reading.write, Cluster.apply, stored]
  rfl

/-- How a pass ends, and the world that it leaves. -/
inductive Exit (o : Operator) (f : Faults) (w : World) : Pass Sync → Prop where
  | unreadable {text : String} (h : look w.cluster f = .error text) : Exit o f w (.error (.cluster text), w)
  | featureGateMissing (h : look w.cluster f = .ok .featureGateMissing) : Exit o f w (.ok .featureGateMissing, w)
  | clusterVersionMissing (h : look w.cluster f = .ok .clusterVersionMissing) :
      Exit o f w (.ok .clusterVersionMissing, w)
  | unresolved {r : Reading} {e : ResolveError} (read : look w.cluster f = .ok (.complete r))
      (h : r.plan o = .error e) : Exit o f w (.error (.resolve e), w)
  | unchanged {r : Reading} {p : Plan} (read : look w.cluster f = .ok (.complete r)) (plan : r.plan o = .ok p)
      (h : p.snapshots = FeatureGate.snapshots r.featureGate) :
      Exit o f w (.ok (.unchanged p.current), w.achieve o.version)
  | refused {r : Reading} {p : Plan} {text : String} (read : look w.cluster f = .ok (.complete r))
      (plan : r.plan o = .ok p) (differs : p.snapshots ≠ FeatureGate.snapshots r.featureGate)
      (h : f.featureGateStatus = some text) : Exit o f w (.error (.cluster text), w)
  | updated {r : Reading} {p : Plan} (read : look w.cluster f = .ok (.complete r)) (plan : r.plan o = .ok p)
      (differs : p.snapshots ≠ FeatureGate.snapshots r.featureGate) (h : f.featureGateStatus = none) :
      Exit o f w (.ok (.updated p.current), recorded o w r p)

theorem commit_exit {o : Operator} {f : Faults} {w : World} {r : Reading} {p : Plan}
    (read : look w.cluster f = .ok (.complete r)) (plan : r.plan o = .ok p) : Exit o f w (commit o f w r p) := by
  unfold commit
  split
  · rename_i h
    exact .unchanged read plan h
  · rename_i differs
    rcases w.write_cases f (r.write p) with ⟨h, hw⟩ | ⟨text, h, hw⟩
    · rw [hw]
      exact .updated read plan differs h
    · rw [hw]
      exact .refused read plan differs h

/-- A pass ends in one of the listed ways. -/
theorem run_exit (o : Operator) (f : Faults) (w : World) : Exit o f w (run o f w) := by
  unfold run
  split
  · rename_i h
    exact .unreadable h
  · rename_i h
    exact .featureGateMissing h
  · rename_i h
    exact .clusterVersionMissing h
  · rename_i r read
    split
    · rename_i h
      exact .unresolved read h
    · rename_i plan
      exact commit_exit read plan

/-- The snapshots that a pass is to leave for the stored object, the first of them that of the running
    release: what it resolves to now, merged with what is recorded. -/
structure Desired (o : Operator) (f : Faults) (c : Cluster) (fg : FeatureGate) (current : Snapshot)
    (snapshots : List Snapshot) : Prop where
  stored : c.featureGate = some fg
  resolved : ∃ node, c.readNodeConfig f = .ok node ∧
    fg.spec.snapshot o.catalog o.version (Observations.ofNode node) = .ok current
  merged : ∃ cv, c.clusterVersion = some cv ∧ snapshots =
    History.merge current (FeatureGate.snapshots fg) (History.knownVersions o.version (ClusterVersion.history cv))

theorem desired_of_plan {o : Operator} {f : Faults} {c : Cluster} {r : Reading} {p : Plan}
    (read : look c f = .ok (.complete r)) (plan : r.plan o = .ok p) :
    Desired o f c r.featureGate p.current p.snapshots := by
  have is : r.IsOf c f := look_eq_ok read
  obtain ⟨hcurrent, hsnapshots⟩ := Reading.plan_eq_ok_iff.mp plan
  exact ⟨is.featureGate, ⟨r.nodeConfig, is.nodeConfig, hcurrent⟩, ⟨r.clusterVersion, is.clusterVersion, hsnapshots⟩⟩

/-- The pass went well: the snapshot of the running release is in place, and is the given one. -/
def Succeeds (result : Pass Sync) (current : Snapshot) : Prop :=
  result.1 = .ok (.unchanged current) ∨ result.1 = .ok (.updated current)

section
variable {o : Operator} {f : Faults} {w : World} {fg : FeatureGate} {current : Snapshot} {snapshots : List Snapshot}

/-- A pass that went well leaves the desired snapshots in the object. -/
theorem cluster_of_succeeds (h : Succeeds (run o f w) current) :
    ∃ fg snapshots, Desired o f w.cluster fg current snapshots ∧ (run o f w).2.cluster =
      { w.cluster with featureGate := some (fg.withStatus ⟨snapshots, FeatureGate.conditions fg⟩) } := by
  have exit := run_exit o f w
  generalize run o f w = result at exit h ⊢
  cases exit with
  | unreadable | featureGateMissing | clusterVersionMissing | unresolved | refused =>
    rcases h with h | h <;> cases h
  | @unchanged r p read plan same =>
    have desired := desired_of_plan read plan
    have recorded : p.snapshots ≠ [] := by
      obtain ⟨cv, -, merged⟩ := desired.merged
      rw [merged]
      exact List.cons_ne_nil _ _
    rcases h with h | h <;> cases h
    refine ⟨r.featureGate, p.snapshots, desired, ?_⟩
    rw [FeatureGate.withStatus_of_snapshots same recorded, ← desired.stored]
    rfl
  | @updated r p read plan =>
    have desired := desired_of_plan read plan
    rcases h with h | h <;> cases h
    exact ⟨r.featureGate, p.snapshots, desired, cluster_recorded desired.stored⟩

theorem desired_of_succeeds (h : Succeeds (run o f w) current) :
    ∃ fg, Desired o f w.cluster fg current (run o f w).2.cluster.snapshots := by
  obtain ⟨fg, snapshots, desired, left⟩ := cluster_of_succeeds h
  have recorded : (run o f w).2.cluster.snapshots = snapshots := by
    rw [left]
    rfl
  exact ⟨fg, recorded ▸ desired⟩

/-- A pass that finds the objects goes well if the gates can be resolved and nothing stands in its way. -/
theorem succeeds_of_resolved {cv : ClusterVersion} (readable : f.Readable) (writable : f.featureGateStatus = none)
    (gate : w.cluster.featureGate = some fg) (version : w.cluster.clusterVersion = some cv)
    (resolved : fg.spec.snapshot o.catalog o.version (Observations.ofNode w.cluster.nodeConfig) = .ok current) :
    Succeeds (run o f w) current := by
  have read := look_of_readable readable gate version
  have exit := run_exit o f w
  generalize run o f w = result at exit ⊢
  have planned {r : Reading} {p : Plan} (read' : look w.cluster f = .ok (.complete r)) (plan : r.plan o = .ok p) :
      p.current = current := by
    cases read.symm.trans read'
    exact Except.ok.inj ((Reading.plan_eq_ok_iff.mp plan).1.symm.trans resolved)
  cases exit with
  | unreadable h | featureGateMissing h | clusterVersionMissing h => cases read.symm.trans h
  | unresolved read' h =>
    cases read.symm.trans read'
    rw [Reading.plan, resolved] at h
    cases h
  | unchanged read' plan => exact .inl (by rw [planned read' plan])
  | refused _ _ _ h => cases writable.symm.trans h
  | updated read' plan => exact .inr (by rw [planned read' plan])

/-- Any other pass leaves the world as it was. -/
theorem world_of_not_succeeds (h : ∀ current, ¬Succeeds (run o f w) current) : (run o f w).2 = w := by
  have exit := run_exit o f w
  generalize run o f w = result at exit h ⊢
  cases exit with
  | unreadable | featureGateMissing | clusterVersionMissing | unresolved | refused => rfl
  | unchanged => exact absurd (.inl rfl) (h _)
  | updated => exact absurd (.inr rfl) (h _)

end

/-- A pass that fails or lacks an object leaves the world as it was. One that finds the desired snapshots in
    place writes and tells nothing. One that does not makes one write, which changes nothing but the recorded
    snapshots of the object, and tells of it once. After both the running release is recorded. -/
theorem run_all_or_nothing (o : Operator) (f : Faults) (w : World) :
    match run o f w with
    | (.error _, w') => w' = w
    | (.ok .featureGateMissing, w') => w' = w
    | (.ok .clusterVersionMissing, w') => w' = w
    | (.ok (.unchanged current), w') => ∃ fg snapshots, Desired o f w.cluster fg current snapshots ∧
        snapshots = FeatureGate.snapshots fg ∧
        w'.cluster = w.cluster ∧ w'.writes = w.writes ∧ w'.events = w.events ∧
        w'.status = w.status.setVersion OperatorStatus.featureGates o.version ∧
        w'.status.version? OperatorStatus.featureGates = some o.version
    | (.ok (.updated current), w') => ∃ fg snapshots, Desired o f w.cluster fg current snapshots ∧
        snapshots ≠ FeatureGate.snapshots fg ∧
        w'.cluster = { w.cluster with
          featureGate := some { fg with status := some { fg.status.getD .empty with snapshots := snapshots } } } ∧
        w'.writes = w.writes ++ [.featureGateStatus fg.metadata ⟨snapshots, FeatureGate.conditions fg⟩] ∧
        w'.events = w.events ++ [.ofUpdate fg current] ∧
        w'.status = w.status.setVersion OperatorStatus.featureGates o.version ∧
        w'.status.version? OperatorStatus.featureGates = some o.version := by
  have exit := run_exit o f w
  generalize run o f w = result at exit ⊢
  cases exit with
  | unreadable | featureGateMissing | clusterVersionMissing | unresolved | refused => rfl
  | @unchanged r p read plan h =>
    refine ⟨r.featureGate, p.snapshots, desired_of_plan read plan, h, rfl, rfl, rfl, rfl, ?_⟩
    exact World.version?_achieve w o.version
  | @updated r p read plan differs =>
    have desired := desired_of_plan read plan
    refine ⟨r.featureGate, p.snapshots, desired, differs, cluster_recorded desired.stored, rfl, rfl, rfl, ?_⟩
    exact World.version?_achieve _ o.version

end FeatureGatePass

end GateOperator
