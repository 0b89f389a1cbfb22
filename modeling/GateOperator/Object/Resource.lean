import GateOperator.Object.Metadata

/-!
Objects of the cluster: metadata, a specification, and for most kinds a status. The version of the
interface and the kind are written, but not looked at when an object is read.
-/

namespace GateOperator

/-- An object of the cluster. -/
structure Resource (Spec Status : Type) where
  metadata : Metadata
  spec : Spec
  status : Option Status

/-- The version of the interface under which all objects stand. -/
def apiVersion : String := "config.openshift.io/v1"

/-- What sets the objects of one kind apart. -/
structure Kind (Spec Status : Type) where
  name : String
  /-- The collection that holds the objects of this kind. -/
  plural : String
  readSpec : Dialect → Value → Option Spec
  writeSpec : Spec → Value
  readStatus : Dialect → Value → Option Status
  writeStatus : Status → Value
  /-- Objects of this kind have a status. -/
  hasStatus : Bool := true

namespace Resource

variable {Spec Status : Type}

/-- Reads an object of a kind. It has metadata and a specification. -/
def read? (kind : Kind Spec Status) (dialect : Dialect) (v : Value) : Option (Resource Spec Status) := do
  let fields ← Fields.read dialect true (["metadata", "spec"] ++ if kind.hasStatus then ["status"] else []) v
  return {
    metadata := ← fields.required "metadata" (Metadata.read? dialect)
    spec := ← fields.required "spec" (kind.readSpec dialect)
    status := ← fields.optional "status" (kind.readStatus dialect) }

def write (kind : Kind Spec Status) (r : Resource Spec Status) : Value := .ofFields [
  Value.always "apiVersion" (.text apiVersion),
  Value.always "kind" (.text kind.name),
  Value.always "metadata" r.metadata.write,
  Value.always "spec" (kind.writeSpec r.spec),
  Value.whenSome "status" kind.writeStatus r.status]

end Resource

/-- A specification without fields. -/
structure EmptySpec where
deriving DecidableEq, Inhabited

namespace EmptySpec

/-- Reads a specification that declares no fields. -/
def read? (dialect : Dialect) (v : Value) : Option EmptySpec := (Fields.of? dialect [] v).map fun _ => {}

/-- A specification without fields as a value. -/
def write (_ : EmptySpec) : Value := .record []

end EmptySpec

end GateOperator
