import GateOperator.Data.Fields
import GateOperator.Object.Timestamp

/-!
The metadata that every object of the cluster carries. All of it may be missing, and null is missing;
what is missing is not written. The fields are written in alphabetical order.
-/

namespace GateOperator

/-- Which manager set which fields of an object. -/
structure ManagedFields where
  apiVersion : Option String
  fieldsType : Option String
  /-- The fields themselves, in a form that only the server reads. -/
  fields : Option Value
  manager : Option String
  operation : Option String
  subresource : Option String
  time : Option Timestamp

/-- An object that owns this one. -/
structure OwnerReference where
  apiVersion : String
  blockOwnerDeletion : Option Bool
  controller : Option Bool
  kind : String
  name : String
  uid : String

/-- The metadata of an object. -/
structure Metadata where
  annotations : Option (NameMap String) := none
  creationTimestamp : Option Timestamp := none
  deletionGracePeriodSeconds : Option Int := none
  deletionTimestamp : Option Timestamp := none
  finalizers : Option (List String) := none
  generateName : Option String := none
  generation : Option Int := none
  labels : Option (NameMap String) := none
  managedFields : Option (List ManagedFields) := none
  name : Option String := none
  inNamespace : Option String := none
  ownerReferences : Option (List OwnerReference) := none
  resourceVersion : Option String := none
  selfLink : Option String := none
  uid : Option String := none

/-- A time given as text. -/
def Timestamp.ofValue? (v : Value) : Option Timestamp := v.text? >>= Timestamp.read?

/-- A time as text. -/
def Timestamp.toValue (t : Timestamp) : Value := .text t.write

namespace ManagedFields

/-- Reads one entry of the managed fields. -/
def read? (dialect : Dialect) (v : Value) : Option ManagedFields := do
  let fields ← Fields.read dialect true
    ["apiVersion", "fieldsType", "fieldsV1", "manager", "operation", "subresource", "time"] v
  return {
    apiVersion := ← fields.optional "apiVersion" Value.text?
    fieldsType := ← fields.optional "fieldsType" Value.text?
    fields := ← fields.optional "fieldsV1" Value.json?
    manager := ← fields.optional "manager" Value.text?
    operation := ← fields.optional "operation" Value.text?
    subresource := ← fields.optional "subresource" Value.text?
    time := ← fields.optional "time" Timestamp.ofValue? }

/-- One entry of the managed fields as a value. -/
def write (m : ManagedFields) : Value := .ofFields [
  Value.whenSome "apiVersion" .text m.apiVersion,
  Value.whenSome "fieldsType" .text m.fieldsType,
  Value.whenSome "fieldsV1" id m.fields,
  Value.whenSome "manager" .text m.manager,
  Value.whenSome "operation" .text m.operation,
  Value.whenSome "subresource" .text m.subresource,
  Value.whenSome "time" Timestamp.toValue m.time]

end ManagedFields

namespace OwnerReference

/-- Reads a reference to an owner; the texts it leaves out are empty. -/
def read? (dialect : Dialect) (v : Value) : Option OwnerReference := do
  let fields ← Fields.read dialect true
    ["apiVersion", "blockOwnerDeletion", "controller", "kind", "name", "uid"] v
  return {
    apiVersion := (← fields.optional "apiVersion" Value.text?).getD ""
    blockOwnerDeletion := ← fields.optional "blockOwnerDeletion" Value.bool?
    controller := ← fields.optional "controller" Value.bool?
    kind := (← fields.optional "kind" Value.text?).getD ""
    name := (← fields.optional "name" Value.text?).getD ""
    uid := (← fields.optional "uid" Value.text?).getD "" }

def write (o : OwnerReference) : Value := .ofFields [
  Value.always "apiVersion" (.text o.apiVersion),
  Value.whenSome "blockOwnerDeletion" .bool o.blockOwnerDeletion,
  Value.whenSome "controller" .bool o.controller,
  Value.always "kind" (.text o.kind),
  Value.always "name" (.text o.name),
  Value.always "uid" (.text o.uid)]

end OwnerReference

namespace Metadata

/-- The fields of metadata. -/
def declared : List String := [
  "annotations", "creationTimestamp", "deletionGracePeriodSeconds", "deletionTimestamp", "finalizers",
  "generateName", "generation", "labels", "managedFields", "name", "namespace", "ownerReferences",
  "resourceVersion", "selfLink", "uid"]

/-- Reads metadata, whose fields are given by name. -/
def read? (dialect : Dialect) (v : Value) : Option Metadata := do
  let fields ← Fields.read dialect true declared v
  return {
    annotations := ← fields.optional "annotations" (Value.mapOf? dialect Value.text?)
    creationTimestamp := ← fields.optional "creationTimestamp" Timestamp.ofValue?
    deletionGracePeriodSeconds := ← fields.optional "deletionGracePeriodSeconds" Value.int?
    deletionTimestamp := ← fields.optional "deletionTimestamp" Timestamp.ofValue?
    finalizers := ← fields.optional "finalizers" (Value.listOf? dialect Value.text?)
    generateName := ← fields.optional "generateName" Value.text?
    generation := ← fields.optional "generation" Value.int?
    labels := ← fields.optional "labels" (Value.mapOf? dialect Value.text?)
    managedFields := ← fields.optional "managedFields" (Value.listOf? dialect (ManagedFields.read? dialect))
    name := ← fields.optional "name" Value.text?
    inNamespace := ← fields.optional "namespace" Value.text?
    ownerReferences := ← fields.optional "ownerReferences" (Value.listOf? dialect (OwnerReference.read? dialect))
    resourceVersion := ← fields.optional "resourceVersion" Value.text?
    selfLink := ← fields.optional "selfLink" Value.text?
    uid := ← fields.optional "uid" Value.text? }

def write (m : Metadata) : Value := .ofFields [
  Value.whenSome "annotations" (Value.ofMap .text) m.annotations,
  Value.whenSome "creationTimestamp" Timestamp.toValue m.creationTimestamp,
  Value.whenSome "deletionGracePeriodSeconds" .int m.deletionGracePeriodSeconds,
  Value.whenSome "deletionTimestamp" Timestamp.toValue m.deletionTimestamp,
  Value.whenSome "finalizers" (fun xs => .list (xs.map .text)) m.finalizers,
  Value.whenSome "generateName" .text m.generateName,
  Value.whenSome "generation" .int m.generation,
  Value.whenSome "labels" (Value.ofMap .text) m.labels,
  Value.whenSome "managedFields" (fun xs => .list (xs.map ManagedFields.write)) m.managedFields,
  Value.whenSome "name" .text m.name,
  Value.whenSome "namespace" .text m.inNamespace,
  Value.whenSome "ownerReferences" (fun xs => .list (xs.map OwnerReference.write)) m.ownerReferences,
  Value.whenSome "resourceVersion" .text m.resourceVersion,
  Value.whenSome "selfLink" .text m.selfLink,
  Value.whenSome "uid" .text m.uid]

end Metadata

end GateOperator
