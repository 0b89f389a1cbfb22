import GateOperator.Object.Resource

/-!
The infrastructure object, whose status says where the control plane of the cluster runs.
-/

namespace GateOperator

/-- Where the control plane runs. -/
structure InfrastructureStatus where
  controlPlaneTopology : Option String
deriving DecidableEq, Inhabited

abbrev Infrastructure := Resource EmptySpec InfrastructureStatus

namespace InfrastructureStatus

def read? (dialect : Dialect) (v : Value) : Option InfrastructureStatus := do
  let fields ← Fields.of? dialect ["controlPlaneTopology"] v
  return ⟨← fields.optional "controlPlaneTopology" Value.text?⟩

def write (s : InfrastructureStatus) : Value := .ofFields [
  Value.whenSome "controlPlaneTopology" .text s.controlPlaneTopology]

end InfrastructureStatus

namespace Infrastructure

def kind : Kind EmptySpec InfrastructureStatus where
  name := "Infrastructure"
  plural := "infrastructures"
  readSpec := EmptySpec.read?
  writeSpec := EmptySpec.write
  readStatus := InfrastructureStatus.read?
  writeStatus := InfrastructureStatus.write

/-- The topology of the control plane, where it is known. -/
def topology? (i : Infrastructure) : Option String := i.status.bind (·.controlPlaneTopology)

end Infrastructure

end GateOperator
