import GateOperator.Api.Message
import GateOperator.Event.Basic

/-!
Telling the server of events. An event that the server has already been told of is not told again: the
first one is marked as repeated instead, however the note has changed.
-/

namespace GateOperator.Api

/-- A moment, as the server writes it, and as a mark that no other moment has. -/
structure Moment where
  time : String
  mark : String

/-- How often an event was repeated, and when it was last. -/
structure Repetition where
  count : Nat
  last : String
deriving DecidableEq

/-- An event that the server is told of. -/
structure EventRecord where
  event : Event
  name : String
  time : String
  reporter : String
  repetition : Option Repetition := none
deriving DecidableEq

namespace EventRecord

/-- The version of the interface for events. -/
def apiVersion : String := "events.k8s.io/v1"

/-- The kind of the objects for events. -/
def kind : String := "Event"

def first (reporter : String) (now : Moment) (e : Event) : EventRecord where
  event := e
  name := e.regarding.name.getD reporter ++ "." ++ now.mark
  time := now.time
  reporter := reporter

/-- The record after one more repetition. -/
def repeated (r : EventRecord) (now : Moment) : EventRecord :=
  { r with repetition := some ⟨((r.repetition.map (·.count)).getD 1) + 1, now.time⟩ }

/-- Where a repetition is told. -/
def writeRepetition (r : Repetition) : Value :=
  .record [("count", .int r.count), ("lastObservedTime", .text r.last)]

def write (r : EventRecord) : Value := .ofFields [
  Value.always "apiVersion" (.text apiVersion),
  Value.always "kind" (.text kind),
  Value.always "action" (.text r.event.action),
  Value.always "eventTime" (.text r.time),
  Value.always "metadata" (.ofFields [
    Value.always "name" (.text r.name),
    Value.whenSome "namespace" .text r.event.regarding.inNamespace]),
  Value.whenSome "note" .text r.event.note,
  Value.always "reason" (.text r.event.reason),
  Value.always "regarding" r.event.regarding.write,
  Value.always "reportingController" (.text r.reporter),
  Value.always "reportingInstance" (.text r.reporter),
  Value.whenSome "series" writeRepetition r.repetition,
  Value.always "type" (.text r.event.type.word)]

/-- The path of the events about the objects of a namespace. -/
def collection (r : EventRecord) : String :=
  "/apis/" ++ apiVersion ++ "/namespaces/" ++ r.event.regarding.inNamespace.getD "default" ++ "/events"

/-- The request that tells the server: of a new event, or of a repetition. -/
def request (r : EventRecord) : Request :=
  match r.repetition with
  | none => { method := .post, path := r.collection, body := some ⟨.json, r.write⟩ }
  | some _ => { method := .patch, path := r.collection ++ "/" ++ r.name, body := some ⟨.mergePatch, r.write⟩ }

/-- A text that has to be a given one. -/
def exactly (expected : String) (v : Value) : Option Unit :=
  if v.text? = some expected then some () else none

/-- The form of an object for an event. -/
def form? (v : Value) : Option Unit := do
  let texts := ["action", "eventTime", "note", "reason", "reportingController", "reportingInstance", "type"]
  let fields ← Fields.read .json true
    (texts ++ ["apiVersion", "kind", "deprecatedCount", "metadata", "regarding", "related"]) v
  fields.withDefault "apiVersion" () (exactly apiVersion)
  fields.withDefault "kind" () (exactly kind)
  for name in texts do
    let _ ← fields.optional name Value.text?
  let _ ← fields.optional "deprecatedCount" Value.int?
  let _ ← fields.optional "metadata" (Metadata.read? .json)
  let _ ← fields.optional "regarding" (Reference.read? .json)
  let _ ← fields.optional "related" (Reference.read? .json)

/-- The server has taken the record. -/
def isAccepted (r : Response) : Bool := !r.isFailure && (r.value? >>= form?).isSome

end EventRecord

/-- What makes two events the same; the note does not matter. -/
structure EventKey where
  type : EventType
  action : String
  reason : String
  regarding : Reference
deriving DecidableEq

/-- What makes an event what it is. -/
def EventKey.of (e : Event) : EventKey := ⟨e.type, e.action, e.reason, e.regarding⟩

/-- Who tells the server of events, and the records that the server has taken. -/
structure Recorder where
  reporter : String
  known : List (EventKey × EventRecord) := []

namespace Recorder

/-- The record by which the server is told of an event. -/
def record (r : Recorder) (now : Moment) (e : Event) : EventRecord :=
  match r.known.lookup (EventKey.of e) with
  | some known => known.repeated now
  | none => .first r.reporter now e

/-- The recorder once the server has taken a record. -/
def keep (r : Recorder) (key : EventKey) (record : EventRecord) : Recorder :=
  { r with known := (key, record) :: r.known.filter fun k => k.1 ≠ key }

/-- Tells the server of an event; a failure is passed over. -/
def publish (server : Server) (r : Recorder) (now : Moment) (e : Event) : Request × Recorder :=
  let record := r.record now e
  (record.request,
    if (server record.request).any EventRecord.isAccepted then r.keep (EventKey.of e) record else r)

end Recorder

end GateOperator.Api
