import GateOperator.Object.Condition
import GateOperator.Object.Gate
import GateOperator.Object.Resource

/-!
The feature gate object: its specification names a feature set, and its status holds one snapshot for
each release that the cluster remembers.
-/

namespace GateOperator

/-- The selected feature set, with the gates forced on or off if there are any. -/
structure FeatureGateSpec where
  featureSet : String
  custom : Option CustomSelection
deriving DecidableEq, Inhabited

/-- The recorded snapshots and conditions. -/
structure FeatureGateStatus where
  snapshots : List Snapshot
  conditions : List Condition
deriving DecidableEq, Inhabited

abbrev FeatureGate := Resource FeatureGateSpec FeatureGateStatus

namespace FeatureGateSpec

/-- Reads the specification of a feature gate object. -/
def read? (dialect : Dialect) (v : Value) : Option FeatureGateSpec := do
  let fields ← Fields.of? dialect ["featureSet", "customNoUpgrade"] v
  return {
    featureSet := ← fields.withDefault "featureSet" "" Value.text?
    custom := ← fields.optional "customNoUpgrade" (CustomSelection.read? dialect) }

/-- The specification of a feature gate object as a value. -/
def write (s : FeatureGateSpec) : Value := .ofFields [
  Value.always "featureSet" (.text s.featureSet),
  Value.whenSome "customNoUpgrade" CustomSelection.write s.custom]

end FeatureGateSpec

namespace FeatureGateStatus

/-- A status in which nothing is recorded. -/
def empty : FeatureGateStatus := ⟨[], []⟩

/-- Reads the status of a feature gate object. -/
def read? (dialect : Dialect) (v : Value) : Option FeatureGateStatus := do
  let fields ← Fields.of? dialect ["featureGates", "conditions"] v
  return {
    snapshots := ← fields.withDefault "featureGates" [] (Value.listOf? dialect (Snapshot.read? dialect))
    conditions := ← fields.withDefault "conditions" [] (Value.listOf? dialect (Condition.read? dialect)) }

/-- The status of a feature gate object as a value; no conditions are not written. -/
def write (s : FeatureGateStatus) : Value := .ofFields [
  Value.always "featureGates" (.list (s.snapshots.map Snapshot.write)),
  Value.whenSomeItems "conditions" Condition.write s.conditions]

end FeatureGateStatus

namespace FeatureGate

def kind : Kind FeatureGateSpec FeatureGateStatus where
  name := "FeatureGate"
  plural := "featuregates"
  readSpec := FeatureGateSpec.read?
  writeSpec := FeatureGateSpec.write
  readStatus := FeatureGateStatus.read?
  writeStatus := FeatureGateStatus.write

/-- The recorded snapshots; none when there is no status. -/
def snapshots (fg : FeatureGate) : List Snapshot := (fg.status.getD .empty).snapshots

/-- The recorded conditions; none when there is no status. -/
def conditions (fg : FeatureGate) : List Condition := (fg.status.getD .empty).conditions

end FeatureGate

end GateOperator
