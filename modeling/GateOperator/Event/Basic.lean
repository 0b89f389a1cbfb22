import GateOperator.Event.Note
import GateOperator.Object.FeatureGate

/-!
Events: what the operator tells about an object of the cluster.
-/

namespace GateOperator

/-- The object that an event is about. -/
structure Reference where
  apiVersion : Option String := none
  fieldPath : Option String := none
  kind : Option String := none
  name : Option String := none
  inNamespace : Option String := none
  resourceVersion : Option String := none
  uid : Option String := none
deriving DecidableEq, Inhabited

/-- Whether an event is a matter of course. -/
inductive EventType where
  | normal
  | warning
deriving DecidableEq

def EventType.word : EventType → String
  | normal => "Normal"
  | warning => "Warning"

/-- What happened to an object. -/
structure Event where
  type : EventType
  reason : String
  action : String
  note : Option String
  regarding : Reference
deriving DecidableEq

namespace Reference

/-- Reads a reference to an object, whose fields are given by name. -/
def read? (dialect : Dialect) (v : Value) : Option Reference := do
  let fields ← Fields.read dialect true
    ["apiVersion", "fieldPath", "kind", "name", "namespace", "resourceVersion", "uid"] v
  return {
    apiVersion := ← fields.optional "apiVersion" Value.text?
    fieldPath := ← fields.optional "fieldPath" Value.text?
    kind := ← fields.optional "kind" Value.text?
    name := ← fields.optional "name" Value.text?
    inNamespace := ← fields.optional "namespace" Value.text?
    resourceVersion := ← fields.optional "resourceVersion" Value.text?
    uid := ← fields.optional "uid" Value.text? }

/-- A reference to an object as a value. -/
def write (r : Reference) : Value := .ofFields [
  Value.whenSome "apiVersion" .text r.apiVersion,
  Value.whenSome "fieldPath" .text r.fieldPath,
  Value.whenSome "kind" .text r.kind,
  Value.whenSome "name" .text r.name,
  Value.whenSome "namespace" .text r.inNamespace,
  Value.whenSome "resourceVersion" .text r.resourceVersion,
  Value.whenSome "uid" .text r.uid]

end Reference

/-- The reference to an object of a kind, whatever its version. -/
def Resource.reference {Spec Status : Type} (kind : Kind Spec Status) (r : Resource Spec Status) : Reference where
  apiVersion := some apiVersion
  kind := some kind.name
  name := r.metadata.name
  inNamespace := r.metadata.inNamespace
  uid := r.metadata.uid

namespace Event

/-- The action of a controller. -/
def reconcile : String := "Reconcile"

/-- The reason for an event about newly recorded gates. -/
def featureGateUpdate : String := "FeatureGateUpdate"

/-- The reason for an event about a replaced feature set. -/
def featureSetMigrated : String := "FeatureSetMigrated"

/-- What a controller tells about a feature gate object. -/
def about (fg : FeatureGate) (reason note : String) : Event where
  type := .normal
  reason := reason
  action := reconcile
  note := some note
  regarding := Resource.reference FeatureGate.kind fg

/-- Newly recorded gates. -/
def ofUpdate (fg : FeatureGate) (current : Snapshot) : Event :=
  about fg featureGateUpdate (Note.update fg.spec.featureSet current)

/-- A feature set that was replaced. -/
def ofReplacement (fg : FeatureGate) (retired successor : String) : Event :=
  about fg featureSetMigrated (Note.replacement retired successor)

end Event

end GateOperator
