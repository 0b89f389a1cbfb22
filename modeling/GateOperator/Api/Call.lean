import GateOperator.Api.Refusal
import GateOperator.Cluster.Basic

/-!
What the operator asks of the server: reads of its objects and writes to them. A read of an object that is
not there gives nothing; every other failure is told apart only by what was asked.
-/

namespace GateOperator.Api

/-- Something asked of the server. -/
structure Call (α : Type) where
  /-- The request; none when it is refused before it is sent. -/
  request : Option Request
  /-- What is said when the call fails. -/
  failure : String
  /-- What an answer means; none when it is a failure. -/
  read : Response → Option α

namespace Call

variable {α : Type}

/-- Asks the server. -/
def run (server : Server) (c : Call α) : Except String α :=
  match c.request >>= server >>= c.read with
  | some a => .ok a
  | none => .error c.failure

end Call

variable {Spec Status : Type}

/-- The path of an object. -/
def path (plural name : String) : String := "/apis/" ++ apiVersion ++ "/" ++ plural ++ "/" ++ name

/-- The object that an answer holds. -/
def object? (kind : Kind Spec Status) (r : Response) : Option (Resource Spec Status) :=
  if r.isFailure then none else r.value? >>= Resource.read? kind .json

/-- Reads the object at a place. -/
def get (p : Place Spec Status) : Call (Option (Resource Spec Status)) where
  request := some { method := .get, path := path p.kind.plural p.name }
  failure := p.unreadable
  read r := if r.isFailure && (Refusal.of r).isNotFound then some none else (object? p.kind r).map some

/-- The most useful name of an object. -/
def nameOf (m : Metadata) : String := (m.name <|> m.generateName).getD ""

/-- The longest name of a manager, in bytes. -/
def longestManager : Nat := 128

namespace Patch

/-- The changes that replace the status of the feature gate object. The resource version makes the server
    refuse them when the object has changed. -/
def featureGateStatus (target : Metadata) (status : FeatureGateStatus) : Value := .record [
  ("metadata", .record [("resourceVersion", (target.resourceVersion.map .text).getD .null)]),
  ("status", status.write)]

/-- The field that is to be owned. -/
def featureSet (featureSet : String) : Value := .record [
  ("apiVersion", .text apiVersion),
  ("kind", .text FeatureGate.kind.name),
  ("metadata", .record [("name", .text Place.featureGate.name)]),
  ("spec", .record [("featureSet", .text featureSet)])]

/-- The changes that replace the status of the cluster operator object. -/
def clusterOperatorStatus (status : ClusterOperatorStatus) : Value := .record [("status", status.write)]

end Patch

/-- Asks for the changes to a status. -/
def patchStatus (plural name : String) (patch : Value) : Option Request :=
  if name = "" || name.toList.any (!isPathCharacter ·) then none
  else some { method := .patch, path := path plural name ++ "/status", body := some ⟨.mergePatch, patch⟩ }

def requestFor : Write → Option Request
  | .featureGateStatus target status =>
    patchStatus FeatureGate.kind.plural (nameOf target) (Patch.featureGateStatus target status)
  | .featureSet featureSet manager =>
    if longestManager < manager.utf8ByteSize then none
    else some {
      method := .patch
      path := path FeatureGate.kind.plural Place.featureGate.name
      query := [("fieldManager", manager), ("force", "true")]
      body := some ⟨.applyPatch, Patch.featureSet featureSet⟩ }
  | .clusterOperatorStatus status =>
    patchStatus ClusterOperator.kind.plural Place.clusterOperator.name (Patch.clusterOperatorStatus status)

/-- The answer to a write holds the object that was written to. -/
def isAccepted : Write → Response → Bool
  | .clusterOperatorStatus _, r => (object? ClusterOperator.kind r).isSome
  | .featureGateStatus _ _, r | .featureSet _ _, r => (object? FeatureGate.kind r).isSome

/-- Makes a write. -/
def put (w : Write) : Call Unit where
  request := requestFor w
  failure := w.failure
  read r := if isAccepted w r then some () else none

end GateOperator.Api
