import GateOperator.Catalog.Load
import GateOperator.Pass.Basic
import GateOperator.Program.Basic

/-!
Launching the operator. It asks the cluster for its profile, loads the catalog, takes over what was reported
before, and then runs its controllers, once it holds its lease if it needs one. Each stage may fail, and
then the run ends with what has been logged so far.
-/

namespace GateOperator.Program.Launch

/-- A stage of the launch, with what is logged. -/
abbrev Stage (α : Type) := ExceptT Complaint (StateM (List Log.Entry)) α

/-- Logs something. -/
def log (level : Log.Level) (message : String) (fields : List (String × Value)) : Stage Unit :=
  modify fun entries => entries ++ [⟨level, Log.program, message, fields⟩]

/-- Gives a result, or fails while something is being done. -/
def during {ε α : Type} (doing : String) (words : ε → String) : Except ε α → Stage α
  | .ok a => return a
  | .error e => throw ⟨doing, some (words e)⟩

/-- The settings without which nothing runs. -/
def settings (s : OperatorSettings) : Stage (String × String) :=
  match s.required with
  | .ok required => return required
  | .error missing => throw ⟨missing.message, none⟩

/-- The server of the cluster. -/
def server (around : Surroundings) : Stage Api.Server :=
  match around.server with
  | some server => return server
  | none => throw ⟨"unable to infer Kubernetes client configuration", none⟩

/-- The profile of the cluster. -/
def profile (server : Api.Server) : Stage String := do
  let infrastructure ← during "unable to get Infrastructure" id ((Api.get .infrastructure).run server)
  return Profile.ofTopology (infrastructure.bind Infrastructure.topology?)

def catalog (files : Files.Tree) (directory version profile : String) : Stage Catalog := do
  let view := Files.View.ofPath files directory
  modify (· ++ Catalog.loadEntries directory view version profile)
  during ("unable to load feature sets from " ++ directory) LoadError.message
    (Catalog.load directory view version profile)

/-- What was reported before. -/
def status (server : Api.Server) (version : String) : Stage OperatorStatus := do
  let clusterOperator ← during "unable to get ClusterOperator" id ((Api.get .clusterOperator).run server)
  return OperatorStatus.empty.seed (clusterOperator.bind (·.status)) version

/-- Launches the operator; its lease is not waited for. -/
def run (s : OperatorSettings) (around : Surroundings) : Stage Ending := do
  log .info "Starting cluster configuration operator" []
  let (version, directory) ← settings s
  log .debug "Initializing Kubernetes client" []
  let server ← server around
  log .debug "Kubernetes client initialized successfully" []
  let profile ← profile server
  let catalog ← catalog around.files directory version profile
  let status ← status server version
  if s.election then
    log .info "Waiting for leader election lease" [
      ("lease", .text s.leaseName), ("namespace", .text s.leaseNamespace),
      ("identity", .text (s.identity around.process))]
    return .waiting
  log .info "Leader election disabled, running controllers immediately" []
  log .info "Starting all controllers" [
    ("operator_version", .text version), ("cluster_profile", .text profile)]
  if !around.isFree s.address then
    throw ⟨"unable to bind metrics server to " ++ s.address.text, some "Address already in use (os error 98)"⟩
  return .running ⟨catalog, version⟩ status

end GateOperator.Program.Launch
