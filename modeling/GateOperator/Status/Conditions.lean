import GateOperator.Object.Condition

/-!
Lists of conditions. A condition is looked up by its type, and the first of a type counts. Setting a
condition moves its transition time only when its status changes, or when it had no time.
-/

namespace GateOperator

namespace Condition

/-- The word for a condition that holds. -/
def isTrue : String := "True"

/-- The word for a condition that does not hold. -/
def isFalse : String := "False"

/-- What is to be observed of one aspect. -/
structure Observation where
  type : String
  status : String
  reason : String
  message : String
deriving DecidableEq

/-- A condition first observed at a time. -/
def Observation.new (o : Observation) (now : String) : Condition :=
  ⟨o.type, o.status, some o.reason, some o.message, some now⟩

/-- The condition after an observation of its aspect. -/
def observe (c : Condition) (o : Observation) (now : String) : Condition where
  type := c.type
  status := o.status
  reason := some o.reason
  message := some o.message
  lastTransitionTime := some (if c.status = o.status then c.lastTransitionTime.getD now else now)

/-- The conditions say the same of their aspect, whenever they last changed. -/
def agrees (c d : Condition) : Bool := c.status = d.status && c.reason = d.reason && c.message = d.message

end Condition

namespace Conditions

/-- The first condition of a type. -/
def find? (conditions : List Condition) (type : String) : Option Condition :=
  conditions.find? fun c => c.type = type

/-- Records an observation: the first condition of its type is changed, or a new one is put at the end. -/
def observe (o : Condition.Observation) (now : String) : List Condition → List Condition
  | [] => [o.new now]
  | c :: conditions => if c.type = o.type then c.observe o now :: conditions else c :: observe o now conditions

/-- Records observations in turn, the `n`-th of them at the time `clock n`. -/
def observeAll (clock : Nat → String) : Nat → List Condition.Observation → List Condition → List Condition
  | _, [], conditions => conditions
  | n, o :: observations, conditions => observeAll clock (n + 1) observations (observe o (clock n) conditions)

/-- The conditions in ascending order of type. -/
def sort (conditions : List Condition) : List Condition := conditions.mergeSort fun c d => c.type ≤ d.type

/-- The lists are equally long, and each condition of `new` agrees with the one of its type in `current`. -/
def agree (current new : List Condition) : Bool :=
  current.length = new.length && new.all fun c => ((find? current c.type).map (·.agrees c)).getD false

end Conditions

end GateOperator
