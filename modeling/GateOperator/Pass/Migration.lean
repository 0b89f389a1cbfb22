import GateOperator.Pass.Basic

/-!
The pass that retires a feature set which no catalog has any more: a cluster that still selects it is moved
to the default feature set.
-/

namespace GateOperator

namespace MigrationPass

/-- The feature set that is retired. -/
def retired : String := "LatencySensitive"

/-- The name under which the new feature set is applied, which is that of the controller. -/
def manager : String := "LatencySensitiveRemovalController"

/-- What the pass has done. -/
inductive Migration where
  | featureGateMissing
  | notNeeded
  | migrated
deriving DecidableEq

/-- How the pass counts. -/
def Migration.outcome : Migration → Outcome
  | featureGateMissing => .skipped
  | notNeeded => .unchanged
  | migrated => .updated

/-- The write that moves the cluster to the default feature set. -/
def write : Write := .featureSet defaultFeatureSet manager

def run (f : Faults) (w : World) : Pass Migration :=
  match w.cluster.readFeatureGate f with
  | .error text => (.error (.cluster text), w)
  | .ok none => (.ok .featureGateMissing, w)
  | .ok (some fg) =>
    if fg.spec.featureSet = retired then
      match w.write f write with
      | .error e => (.error e, w)
      | .ok w => (.ok .migrated, w.publish (.ofReplacement fg retired defaultFeatureSet))
    else (.ok .notNeeded, w)

end MigrationPass

end GateOperator
