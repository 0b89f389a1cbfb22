import GateOperator.Pass.FeatureGates
import GateOperator.Pass.Migration

/-!
The controllers: each makes passes over the feature gate object, counts them, reports whether the last one
failed, and says when the next one is due. Objects of another name are passed over.
-/

namespace GateOperator

namespace World

/-- Counts a pass of a controller and records what was wrong with it. -/
def conclude (w : World) (controller : String) (outcome : Outcome) (elapsed : Duration) (failure : Option String) :
    World :=
  { w with
    metrics := w.metrics.recordPass controller outcome elapsed
    status := w.status.setOutcome controller failure }

/-- Notes how many gates of the running release are on and off. -/
def countGates (w : World) (current : Option Snapshot) : World :=
  match current with
  | none => w
  | some s => { w with metrics := w.metrics.recordGates ⟨s.enabled.length, s.disabled.length⟩ }

end World

/-- A controller. -/
inductive Controller where
  /-- Keeps the recorded gates up to date. -/
  | featureGates
  /-- Retires a feature set. -/
  | migration
deriving DecidableEq

namespace Controller

/-- The name under which a controller reports. -/
def name : Controller → String
  | featureGates => "FeatureGateController"
  | migration => MigrationPass.manager

/-- The milliseconds from a pass that went well to the next one. -/
def resync : Nat := 60000

/-- The milliseconds from a pass that failed to the next one. -/
def retry : Nat := 30000

/-- Makes a pass; gives the world after it, and the milliseconds to the next one. -/
def pass (c : Controller) (o : Operator) (f : Faults) (elapsed : Duration) (w : World) : World × Nat :=
  match c with
  | featureGates =>
    match FeatureGatePass.run o f w with
    | (.ok sync, w) => ((w.conclude c.name sync.outcome elapsed none).countGates sync.current?, resync)
    | (.error e, w) => (w.conclude c.name .error elapsed (some e.message), retry)
  | migration =>
    match MigrationPass.run f w with
    | (.ok done, w) => (w.conclude c.name done.outcome elapsed none, resync)
    | (.error e, w) => (w.conclude c.name .error elapsed (some e.message), retry)

/-- Offers the object of a name to a controller. Only the one it works for leads to a pass; after any other
    the controller waits for changes. -/
def reconcile (c : Controller) (object : String) (o : Operator) (f : Faults) (elapsed : Duration) (w : World) :
    World × Option Nat :=
  if object = Place.featureGate.name then
    let (w, delay) := c.pass o f elapsed w
    (w, some delay)
  else (w, none)

end Controller

end GateOperator
