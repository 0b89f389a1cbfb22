import GateOperator.Data.NameMap
import GateOperator.Object.ClusterOperator
import GateOperator.Status.Conditions
import GateOperator.Status.Degraded

/-!
What the operator remembers of itself: the versions it has achieved, how the last pass of each controller
ended, and the conditions it last built. From these it builds the status that it reports.
-/

namespace GateOperator

/-- The versions achieved, the outcomes of the controllers, and the conditions last built. -/
structure OperatorStatus where
  versions : NameMap String
  /-- What was wrong with the last pass of each controller that has reported; nothing if it went well. -/
  outcomes : NameMap (Option String)
  conditions : List Condition
deriving DecidableEq

namespace OperatorStatus

/-- Nothing achieved and nothing reported yet. -/
def empty : OperatorStatus := ⟨.empty, .empty, []⟩

/-- The name under which the release is recorded whose gates have been written. -/
def featureGates : String := "feature-gates"

/-- The name under which the running release is recorded. -/
def operator : String := "operator"

/-- Takes over what was reported before a start. The release of the written gates is left empty when it
    was not reported, so that a new release is not claimed before it is achieved. -/
def seed (s : OperatorStatus) (persisted : Option ClusterOperatorStatus) (running : String) : OperatorStatus :=
  let s :=
    match persisted with
    | none => s
    | some reported =>
      { s with
        versions := s.versions.insertAll (reported.versions.map fun (v : OperandVersion) => (v.name, v.version))
        conditions := reported.conditions }
  let versions := if s.versions.contains featureGates then s.versions else s.versions.insert featureGates ""
  { s with versions := versions.insert operator running }

/-- Records that a version has been achieved. -/
def setVersion (s : OperatorStatus) (name version : String) : OperatorStatus :=
  { s with versions := s.versions.insert name version }

/-- The version achieved under a name. -/
def version? (s : OperatorStatus) (name : String) : Option String := s.versions.find? name

@[simp] theorem version?_setVersion {s : OperatorStatus} {name other version : String} :
    (s.setVersion name version).version? other = if other = name then some version else s.version? other :=
  NameMap.find?_insert

/-- All versions achieved, in ascending order of name. -/
def operandVersions (s : OperatorStatus) : List OperandVersion := s.versions.entries.map fun v => ⟨v.1, v.2⟩

/-- Records how the last pass of a controller ended. -/
def setOutcome (s : OperatorStatus) (controller : String) (failure : Option String) : OperatorStatus :=
  { s with outcomes := s.outcomes.insert controller failure }

/-- The last pass of the controller failed. -/
def isDegraded (s : OperatorStatus) (controller : String) : Bool := ((s.outcomes.find? controller).join).isSome

/-- The reason given when all is well. -/
def asExpected : String := "AsExpected"

/-- The reason given for a failed pass. -/
def syncError : String := "SyncError"

/-- An aspect about which there is nothing to say. -/
def quiet (type status : String) : Condition.Observation := ⟨type, status, asExpected, ""⟩

def ofOutcome (controller : String) : Option String → Condition.Observation
  | some failure => ⟨Degraded.conditionType controller, Condition.isTrue, syncError, failure⟩
  | none => quiet (Degraded.conditionType controller) Condition.isFalse

/-- The conditions that report a failing controller, with its name. -/
def failing (conditions : List Condition) : List (String × Condition) :=
  conditions.filterMap fun c =>
    if c.status = Condition.isTrue then (Degraded.controller? c.type).map fun controller => (controller, c)
    else none

/-- What is observed of all controllers together. -/
def summary (failing : List (String × Condition)) : Condition.Observation :=
  match failing with
  | [] => quiet Degraded.word Condition.isFalse
  | _ => {
      type := Degraded.word
      status := Condition.isTrue
      reason := "::".intercalate (failing.map fun f => f.1 ++ "_" ++ syncError)
      message := "\n".intercalate (failing.map fun f => f.2.type ++ ": " ++ f.2.message.getD "") }

/-- The conditions of the controllers, brought up to date and in order. -/
def controllerConditions (s : OperatorStatus) (clock : Nat → String) : List Condition :=
  Conditions.sort <|
    Conditions.observeAll clock 0 (s.outcomes.entries.map fun o => ofOutcome o.1 o.2) s.conditions

/-- What is observed of the operator as a whole. -/
def overall (conditions : List Condition) : List Condition.Observation := [
  summary (failing conditions),
  quiet "Available" Condition.isTrue,
  quiet "Progressing" Condition.isFalse,
  quiet "Upgradeable" Condition.isTrue]

/-- The conditions to report, on top of those last built; `clock` gives the time of each observation. -/
def buildConditions (s : OperatorStatus) (clock : Nat → String) : List Condition :=
  let conditions := s.controllerConditions clock
  Conditions.sort (Conditions.observeAll clock s.outcomes.entries.length (overall conditions) conditions)

/-- The status to report, and the operator status that remembers it. -/
def build (s : OperatorStatus) (clock : Nat → String) : ClusterOperatorStatus × OperatorStatus :=
  let conditions := s.buildConditions clock
  (⟨conditions, s.operandVersions⟩, { s with conditions := conditions })

/-- The reported status says all that is to be said; transition times do not count. -/
def isReported (reported built : ClusterOperatorStatus) : Bool :=
  reported.versions = built.versions && Conditions.agree reported.conditions built.conditions

end OperatorStatus

end GateOperator
