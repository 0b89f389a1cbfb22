import GateOperator.Data.Value

/-!
Log entries: what happened, how much it matters, and in which part of the program it happened.
-/

namespace GateOperator.Log

/-- How much an entry matters. -/
inductive Level where
  | error
  | warn
  | info
  | debug
  | trace
deriving DecidableEq

/-- The word for a level. -/
def Level.text : Level → String
  | error => "ERROR"
  | warn => "WARN"
  | info => "INFO"
  | debug => "DEBUG"
  | trace => "TRACE"

/-- The rank of a level; what matters most ranks lowest. -/
def Level.rank : Level → Nat
  | error => 1
  | warn => 2
  | info => 3
  | debug => 4
  | trace => 5

/-- Something that happened. -/
structure Entry where
  level : Level
  /-- The part of the program. -/
  target : String
  message : String
  fields : List (String × Value) := []

/-- The name by which log settings know the program. -/
def program : String := "clustercfg"

/-- The name of a part of the program in log settings. -/
def part (names : List String) : String := "::".intercalate (program :: names)

end GateOperator.Log
