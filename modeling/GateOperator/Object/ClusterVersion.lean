import GateOperator.Object.Resource

/-!
The cluster version object, which records the releases that the cluster has been at.
-/

namespace GateOperator

/-- A release that the cluster has been at. -/
structure UpdateRecord where
  version : String
  state : Option String
  image : Option String
deriving DecidableEq, Inhabited

/-- The specification of a cluster version object. -/
structure ClusterVersionSpec where
  clusterID : Option String
deriving DecidableEq, Inhabited

/-- The releases that the cluster has been at, most recent first. -/
structure ClusterVersionStatus where
  history : List UpdateRecord
deriving DecidableEq, Inhabited

abbrev ClusterVersion := Resource ClusterVersionSpec ClusterVersionStatus

namespace UpdateRecord

/-- Reads a record of the upgrade history. -/
def read? (dialect : Dialect) (v : Value) : Option UpdateRecord := do
  let fields ← Fields.of? dialect ["version", "state", "image"] v
  return {
    version := ← fields.required "version" Value.text?
    state := ← fields.optional "state" Value.text?
    image := ← fields.optional "image" Value.text? }

/-- A record of the upgrade history as a value. -/
def write (u : UpdateRecord) : Value := .ofFields [
  Value.always "version" (.text u.version),
  Value.whenSome "state" .text u.state,
  Value.whenSome "image" .text u.image]

end UpdateRecord

namespace ClusterVersionSpec

/-- Reads the specification of a cluster version object. -/
def read? (dialect : Dialect) (v : Value) : Option ClusterVersionSpec := do
  let fields ← Fields.of? dialect ["clusterID"] v
  return ⟨← fields.optional "clusterID" Value.text?⟩

/-- The specification of a cluster version object as a value. -/
def write (s : ClusterVersionSpec) : Value := .ofFields [Value.whenSome "clusterID" .text s.clusterID]

end ClusterVersionSpec

namespace ClusterVersionStatus

/-- Reads the status of a cluster version object. -/
def read? (dialect : Dialect) (v : Value) : Option ClusterVersionStatus := do
  let fields ← Fields.of? dialect ["history"] v
  return ⟨← fields.withDefault "history" [] (Value.listOf? dialect (UpdateRecord.read? dialect))⟩

/-- The status of a cluster version object as a value. -/
def write (s : ClusterVersionStatus) : Value := .ofFields [
  Value.always "history" (.list (s.history.map UpdateRecord.write))]

end ClusterVersionStatus

namespace ClusterVersion

def kind : Kind ClusterVersionSpec ClusterVersionStatus where
  name := "ClusterVersion"
  plural := "clusterversions"
  readSpec := ClusterVersionSpec.read?
  writeSpec := ClusterVersionSpec.write
  readStatus := ClusterVersionStatus.read?
  writeStatus := ClusterVersionStatus.write

/-- The upgrade history; empty when there is no status. -/
def history (cv : ClusterVersion) : List UpdateRecord := (cv.status.map (·.history)).getD []

end ClusterVersion

end GateOperator
