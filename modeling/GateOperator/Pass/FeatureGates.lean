import GateOperator.History
import GateOperator.Pass.Basic

/-!
The pass that keeps the recorded gates up to date. It reads the objects, works out what is to be recorded,
and writes only when that differs from what is recorded. When the snapshot of the running release is in
place the release counts as achieved; a pass that fails or lacks an object leaves everything as it was.
-/

namespace GateOperator

namespace FeatureGatePass

/-- What the pass has read. -/
structure Reading where
  featureGate : FeatureGate
  clusterVersion : ClusterVersion
  nodeConfig : Option NodeConfig

/-- What the pass finds in the cluster. -/
inductive Finding where
  | featureGateMissing
  | clusterVersionMissing
  | complete (reading : Reading)

/-- What the pass works out: the snapshot of the running release, and all snapshots to record. -/
structure Plan where
  current : Snapshot
  snapshots : List Snapshot
deriving DecidableEq

/-- What the pass has done. -/
inductive Sync where
  | featureGateMissing
  | clusterVersionMissing
  | unchanged (current : Snapshot)
  | updated (current : Snapshot)
deriving DecidableEq

namespace Sync

/-- How the pass counts. -/
def outcome : Sync → Outcome
  | featureGateMissing | clusterVersionMissing => .skipped
  | unchanged _ => .unchanged
  | updated _ => .updated

/-- The snapshot of the running release, when the pass got that far. -/
def current? : Sync → Option Snapshot
  | featureGateMissing | clusterVersionMissing => none
  | unchanged current | updated current => some current

end Sync

/-- Reads the objects in turn; without the first two there is nothing to do. -/
def look (c : Cluster) (f : Faults) : Except String Finding := do
  match ← c.readFeatureGate f with
  | none => return .featureGateMissing
  | some featureGate =>
    match ← c.readClusterVersion f with
    | none => return .clusterVersionMissing
    | some clusterVersion => return .complete ⟨featureGate, clusterVersion, ← c.readNodeConfig f⟩

namespace Reading

/-- The upgrade history. -/
def history (r : Reading) : List UpdateRecord := (r.clusterVersion.status.map (·.history)).getD []

/-- Works out what is to be recorded for the running release. -/
def plan (r : Reading) (o : Operator) : Except ResolveError Plan := do
  let current ← r.featureGate.spec.snapshot o.catalog o.version (Observations.ofNode r.nodeConfig)
  return ⟨current, History.merge current (FeatureGate.snapshots r.featureGate)
    (History.knownVersions o.version r.history)⟩

/-- The write that records a plan; the conditions stay. -/
def write (r : Reading) (p : Plan) : Write :=
  .featureGateStatus r.featureGate.metadata ⟨p.snapshots, FeatureGate.conditions r.featureGate⟩

end Reading

/-- Records a plan, unless it is recorded. -/
def commit (o : Operator) (f : Faults) (w : World) (r : Reading) (p : Plan) : Pass Sync :=
  if p.snapshots = FeatureGate.snapshots r.featureGate then (.ok (.unchanged p.current), w.achieve o.version)
  else
    match w.write f (r.write p) with
    | .error e => (.error e, w)
    | .ok w =>
      (.ok (.updated p.current),
        ((w.countWrite FeatureGate.kind.name).publish (.ofUpdate r.featureGate p.current)).achieve o.version)

def run (o : Operator) (f : Faults) (w : World) : Pass Sync :=
  match look w.cluster f with
  | .error text => (.error (.cluster text), w)
  | .ok .featureGateMissing => (.ok .featureGateMissing, w)
  | .ok .clusterVersionMissing => (.ok .clusterVersionMissing, w)
  | .ok (.complete r) =>
    match r.plan o with
    | .error e => (.error (.resolve e), w)
    | .ok p => commit o f w r p

end FeatureGatePass

end GateOperator
