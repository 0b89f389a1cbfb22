import GateOperator.Object.NodeConfig
import GateOperator.Resolution.Selection
import GateOperator.Version.Precedence

/-!
Whether the observed component versions meet what a gate requires. The requirements are checked in order
and the first one that is not met keeps the gate off.
-/

namespace GateOperator

/-- The observed version of each component. -/
abbrev Observations := NameMap String

namespace Observations

/-- The component whose version the node configuration gives. -/
def kubelet : String := "Kubelet"

/-- What the node configuration says; an empty version says nothing. -/
def ofNode (node : Option NodeConfig) : Observations :=
  match node with
  | none => .empty
  | some node =>
    if node.spec.minimumKubeletVersion = "" then .empty
    else .insert .empty kubelet node.spec.minimumKubeletVersion

/-- The version observed for a component; an empty one is none. -/
def version? (observed : Observations) (component : String) : Option String :=
  (observed.find? component).filter (· ≠ "")

end Observations

/-- Why a requirement keeps its gate off. -/
inductive Unmet where
  | notObserved (component : String)
  | malformed (requirement : Requirement)
  | below (requirement : Requirement) (observed : String)
deriving DecidableEq

/-- The words for the reason. -/
def Unmet.message : Unmet → String
  | notObserved component => "no observed minimum " ++ component ++ " version"
  | malformed r =>
    "required minimum " ++ r.component ++ " version " ++ Text.Quoted.ofString r.version ++ " does not parse"
  | below r observed =>
    "observed minimum " ++ r.component ++ " version " ++ observed ++ " is below required " ++ r.version

/-- Why a requirement is not met; an observed version that does not parse is an error. -/
def Requirement.unmet? (gate : String) (observed : Observations) (r : Requirement) :
    Except ResolveError (Option Unmet) :=
  match observed.version? r.component with
  | none => .ok (some (.notObserved r.component))
  | some text =>
    match Version.parse r.version with
    | .error _ => .ok (some (.malformed r))
    | .ok required =>
      match Version.parse text with
      | .error reason => .error (.invalidObservedVersion gate r.component text reason)
      | .ok version => .ok (if version.reaches required then none else some (.below r text))

/-- Why the first of some requirements that is not met is not met. -/
def firstUnmet? (gate : String) (observed : Observations) :
    List Requirement → Except ResolveError (Option Unmet)
  | [] => .ok none
  | r :: requirements =>
    match r.unmet? gate observed with
    | .error e => .error e
    | .ok (some reason) => .ok (some reason)
    | .ok none => firstUnmet? gate observed requirements

/-- Why a gate has to stay off. -/
def Gate.unmet? (g : Gate) (observed : Observations) : Except ResolveError (Option Unmet) :=
  firstUnmet? g.name observed g.requirements

end GateOperator
