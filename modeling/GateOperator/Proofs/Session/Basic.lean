import GateOperator.Pass.FeatureGates
import GateOperator.Pass.Migration
import GateOperator.Pass.Publication

/-!
Sessions of an operator: what it does and what happens to the cluster meanwhile, in any order and with any
failures. A session starts with what was reported before and with nothing done yet.
-/

namespace GateOperator

namespace Session

/-- Something that happens while an operator runs. -/
inductive Action where
  /-- A pass over the recorded gates. -/
  | featureGates (f : Faults)
  /-- A pass that retires a feature set. -/
  | migration (f : Faults)
  /-- A controller reports how its last pass ended. -/
  | setOutcome (controller : String) (failure : Option String)
  /-- The status is built. -/
  | build (clock : Nat → String)
  /-- The status is published. -/
  | publish (f : Faults) (clock : Nat → String)
  /-- Objects of the cluster are changed from outside. -/
  | change (cluster : Cluster)

/-- The world after an action. -/
def Action.perform (o : Operator) (w : World) : Action → World
  | featureGates f => (FeatureGatePass.run o f w).2
  | migration f => (MigrationPass.run f w).2
  | setOutcome controller failure => { w with status := w.status.setOutcome controller failure }
  | build clock => { w with status := (w.status.build clock).2 }
  | publish f clock => (Publication.run f clock w).2
  | change cluster => { w with cluster }

/-- The world after actions in turn. -/
def run (o : Operator) (w : World) (actions : List Action) : World := actions.foldl (Action.perform o) w

/-- The world in which a process of a release starts. -/
def start (cluster : Cluster) (persisted : Option ClusterOperatorStatus) (version : String) : World where
  cluster := cluster
  status := OperatorStatus.empty.seed persisted version

@[simp] theorem run_nil {o : Operator} {w : World} : run o w [] = w := rfl

@[simp] theorem run_concat {o : Operator} {w : World} {actions : List Action} {a : Action} :
    run o w (actions ++ [a]) = a.perform o (run o w actions) := by
  simp [run]

end Session

end GateOperator
