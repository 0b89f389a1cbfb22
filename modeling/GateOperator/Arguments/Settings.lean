import GateOperator.Address.Reader
import GateOperator.Arguments.Scan
import GateOperator.Catalog.Profile
import GateOperator.Data.Word
import GateOperator.Render

/-!
The settings of the two modes, and the options that set them.
-/

namespace GateOperator

namespace Arguments

/-- A text; it may be empty. -/
def text {σ : Type} (set : String → σ → σ) (value : String) (settings : σ) : Except ValueFault σ :=
  .ok (set value settings)

/-- The path of a file or directory. -/
def filePath {σ : Type} (set : String → σ → σ) (value : String) (settings : σ) : Except ValueFault σ :=
  if value = "" then .error .empty else .ok (set value settings)

def truth {σ : Type} (set : Bool → σ → σ) (value : String) (settings : σ) : Except ValueFault σ :=
  if value = "true" then .ok (set true settings)
  else if value = "false" then .ok (set false settings)
  else if value = "" then .error .empty
  else .error .notAllowed

/-- An address to listen on. -/
def address {σ : Type} (set : Address → σ → σ) (value : String) (settings : σ) : Except ValueFault σ :=
  match Address.read? value with
  | some a => .ok (set a settings)
  | none => .error (.malformed "invalid socket address syntax")

/-- The number that digits and those before them make. -/
def digits : Nat → List Char → Except String Nat
  | n, [] => .ok n
  | n, c :: cs =>
    if !c.isDigit then .error "invalid digit found in string"
    else
      let n := n * 10 + (c.toNat - '0'.toNat)
      if n < Word.size 64 then digits n cs else .error "number too large to fit in target type"

/-- The number that a text stands for; a plus may come before its digits. -/
def readNumber (value : String) : Except String Nat :=
  match value.toList with
  | [] => .error "cannot parse integer from empty string"
  | '+' :: c :: cs => digits 0 (c :: cs)
  | cs => digits 0 cs

/-- A number that fits 64 bits. -/
def number {σ : Type} (set : Nat → σ → σ) (value : String) (settings : σ) : Except ValueFault σ :=
  match readNumber value with
  | .ok n => .ok (set n settings)
  | .error reason => .error (.malformed reason)

end Arguments

/-- The settings of the operator. -/
structure OperatorSettings where
  /-- The release that the operator belongs to. -/
  version : Option String := none
  /-- The directory of the manifests that make up the catalog. -/
  manifests : Option String := none
  /-- Where the pages of the operator are served. -/
  address : Address := ⟨.v4 [0, 0, 0, 0], 8080⟩
  /-- The seconds after which a request to the cluster is given up. -/
  timeout : Nat := 30
  /-- The controllers run only while a lease is held. -/
  election : Bool := false
  leaseNamespace : String := "openshift-config-operator"
  leaseName : String := "config-operator-lock"
  pod : Option String := none
deriving DecidableEq

/-- A setting without which the operator cannot run. -/
inductive MissingSetting where
  | version
  | manifests
deriving DecidableEq

/-- The words for a missing setting. -/
def MissingSetting.message : MissingSetting → String
  | version => "--operator-version (or OPERATOR_IMAGE_VERSION) is required"
  | manifests => "--authoritative-feature-gate-dir is required"

namespace OperatorSettings

/-- The release and the directory of manifests; an empty release is none. -/
def required (s : OperatorSettings) : Except MissingSetting (String × String) :=
  match s.version.filter (· ≠ ""), s.manifests with
  | none, _ => .error .version
  | _, none => .error .manifests
  | some version, some manifests => .ok (version, manifests)

/-- The name under which the operator holds a lease; without a pod it is made from the process. -/
def identity (s : OperatorSettings) (process : String) : String := s.pod.getD ("clustercfg-" ++ process)

open Arguments in
/-- The options of the operator. -/
def parameters : List (Parameter OperatorSettings) := [
  { name := "operator-version", fallback := some "OPERATOR_IMAGE_VERSION"
    about := "Release version this operator reconciles feature gates for"
    take := text fun v s => { s with version := some v } },
  { name := "authoritative-feature-gate-dir", fallback := some "AUTHORITATIVE_FEATURE_GATE_DIR"
    about := "Directory containing each possible rendered FeatureGate manifest"
    take := filePath fun v s => { s with manifests := some v } },
  { name := "metrics-bind-address", fallback := some "METRICS_BIND_ADDRESS"
    about := "Address serving /metrics, /healthz and /readyz"
    take := Arguments.address fun v s => { s with address := v } },
  { name := "request-timeout-secs", fallback := some "REQUEST_TIMEOUT_SECS"
    about := "Timeout applied to every API request, in seconds"
    take := number fun v s => { s with timeout := v } },
  { name := "leader-election", arity := .flag, fallback := some "ENABLE_LEADER_ELECTION"
    about := "Only run the controllers while holding the leader lease"
    take := truth fun v s => { s with election := v } },
  { name := "lease-namespace", fallback := some "LEASE_NAMESPACE"
    about := "Namespace of the leader election lease"
    take := text fun v s => { s with leaseNamespace := v } },
  { name := "lease-name", fallback := some "LEASE_NAME"
    about := "Name of the leader election lease"
    take := text fun v s => { s with leaseName := v } },
  { name := "pod-name", fallback := some "POD_NAME"
    about := "Leader identity, usually the pod name"
    take := text fun v s => { s with pod := some v } }]

end OperatorSettings

namespace RenderRequest

/-- The release for which is rendered unless another is given. -/
def defaultVersion : String := "0.0.1-snapshot"

/-- Nothing to render yet. -/
def empty : RenderRequest := ⟨[], "", defaultVersion, Profile.selfManaged⟩

open Arguments in
/-- The options of a request to render. -/
def parameters : List (Parameter RenderRequest) := [
  { name := "rendered-manifest-files", arity := .many, required := true
    about := "Rendered manifest file to scan for a FeatureGate (repeatable)"
    take := filePath fun v r => { r with inputs := r.inputs ++ [v] } },
  { name := "payload-version"
    about := "Release version to resolve the feature gates for"
    take := text fun v r => { r with version := v } },
  { name := "authoritative-feature-gate-dir", required := true
    about := "Directory containing each possible rendered FeatureGate manifest"
    take := filePath fun v r => { r with authoritative := v } },
  { name := "cluster-profile"
    about := "Cluster profile selecting which authoritative manifests apply"
    take := text fun v r => { r with profile := v } }]

end RenderRequest

end GateOperator
