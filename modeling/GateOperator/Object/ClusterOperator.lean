import GateOperator.Object.Condition
import GateOperator.Object.Resource

/-!
The cluster operator object, by which an operator reports its health and the versions it has achieved.
-/

namespace GateOperator

/-- A version reported under a name. -/
structure OperandVersion where
  name : String
  version : String
deriving DecidableEq, Inhabited

/-- The reported conditions and versions. -/
structure ClusterOperatorStatus where
  conditions : List Condition
  versions : List OperandVersion
deriving DecidableEq, Inhabited

abbrev ClusterOperator := Resource EmptySpec ClusterOperatorStatus

namespace OperandVersion

/-- Reads a reported version. -/
def read? (dialect : Dialect) (v : Value) : Option OperandVersion := do
  let fields ← Fields.of? dialect ["name", "version"] v
  return ⟨← fields.required "name" Value.text?, ← fields.required "version" Value.text?⟩

/-- A reported version as a value. -/
def write (o : OperandVersion) : Value := .ofFields [
  Value.always "name" (.text o.name),
  Value.always "version" (.text o.version)]

end OperandVersion

namespace ClusterOperatorStatus

/-- A status that reports nothing. -/
def empty : ClusterOperatorStatus := ⟨[], []⟩

/-- Reads the status of a cluster operator object. -/
def read? (dialect : Dialect) (v : Value) : Option ClusterOperatorStatus := do
  let fields ← Fields.of? dialect ["conditions", "versions"] v
  return {
    conditions := ← fields.withDefault "conditions" [] (Value.listOf? dialect (Condition.read? dialect))
    versions := ← fields.withDefault "versions" [] (Value.listOf? dialect (OperandVersion.read? dialect)) }

/-- The status of a cluster operator object as a value. -/
def write (s : ClusterOperatorStatus) : Value := .ofFields [
  Value.always "conditions" (.list (s.conditions.map Condition.write)),
  Value.always "versions" (.list (s.versions.map OperandVersion.write))]

end ClusterOperatorStatus

namespace ClusterOperator

def kind : Kind EmptySpec ClusterOperatorStatus where
  name := "ClusterOperator"
  plural := "clusteroperators"
  readSpec := EmptySpec.read?
  writeSpec := EmptySpec.write
  readStatus := ClusterOperatorStatus.read?
  writeStatus := ClusterOperatorStatus.write

end ClusterOperator

end GateOperator
