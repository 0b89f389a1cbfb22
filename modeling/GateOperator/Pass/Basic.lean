import GateOperator.Catalog.Basic
import GateOperator.Cluster.Access
import GateOperator.Event.Basic
import GateOperator.Metrics.Basic
import GateOperator.Resolution.Basic
import GateOperator.Status.Operator

/-!
What the passes of the operator work on: the cluster, and what the operator remembers, counts, writes and
tells. A pass gives its result together with the world after it, also when it fails.
-/

namespace GateOperator

/-- What a running operator works for: its catalog and the release that it belongs to. -/
structure Operator where
  catalog : Catalog
  version : String

/-- The cluster and the operator's own records. -/
structure World where
  cluster : Cluster := {}
  status : OperatorStatus := .empty
  metrics : Metrics := .empty
  /-- The writes that were accepted, in order. -/
  writes : List Write := []
  /-- The events that were published, in order. -/
  events : List Event := []

/-- Why a pass fails. -/
inductive PassError where
  /-- The gates cannot be resolved. -/
  | resolve (cause : ResolveError)
  /-- The cluster cannot be read or written. -/
  | cluster (text : String)
deriving DecidableEq

/-- The words for a failure. -/
def PassError.message : PassError → String
  | resolve cause => "unable to determine FeatureGateDetails from FeatureSets: " ++ cause.message
  | cluster text => text

/-- What a pass leaves: its result, and the world after it. -/
abbrev Pass (α : Type) := Except PassError α × World

namespace World

/-- The world in which nothing has been done in this step. -/
def quiet (w : World) : World := { w with writes := [], events := [] }

/-- Tries a write to the cluster; one that is accepted is kept. -/
def write (w : World) (f : Faults) (request : Write) : Except PassError World :=
  match w.cluster.write f request with
  | .error text => .error (.cluster text)
  | .ok cluster => .ok { w with cluster, writes := w.writes ++ [request] }

/-- Counts a write of the status of a kind of object. -/
def countWrite (w : World) (kind : String) : World := { w with metrics := w.metrics.recordStatusWrite kind }

def publish (w : World) (e : Event) : World := { w with events := w.events ++ [e] }

/-- Records that the gates of a release have been written. -/
def achieve (w : World) (version : String) : World :=
  { w with status := w.status.setVersion OperatorStatus.featureGates version }

theorem version?_achieve (w : World) (version : String) :
    (w.achieve version).status.version? OperatorStatus.featureGates = some version := by
  rw [achieve, OperatorStatus.version?_setVersion, if_pos rfl]

/-- An accepted write has its effect on the cluster and is kept; a refused one has none. -/
theorem write_cases (w : World) (f : Faults) (request : Write) :
    (f.ofWrite request = none ∧ w.write f request =
      .ok { w with cluster := w.cluster.apply request, writes := w.writes ++ [request] }) ∨
    ∃ text, f.ofWrite request = some text ∧ w.write f request = .error (.cluster text) := by
  unfold write Cluster.write
  cases f.ofWrite request with
  | none => exact .inl ⟨rfl, rfl⟩
  | some text => exact .inr ⟨text, rfl, rfl⟩

end World

end GateOperator
