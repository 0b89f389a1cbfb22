/-!
The types of the conditions that report a failing controller: the name of the controller followed by a
fixed word. The word alone is the type of the condition that sums them up.
-/

namespace GateOperator

namespace Degraded

/-- The type of the condition that sums up all controllers. -/
def word : String := "Degraded"

def conditionType (controller : String) : String := controller ++ word

def withoutEnding? (ending text : List Char) : Option (List Char) :=
  if ending.isSuffixOf text then some (text.take (text.length - ending.length)) else none

/-- The controller whose condition has the type, if it is the condition of a controller. -/
def controller? (type : String) : Option String :=
  match withoutEnding? word.toList type.toList with
  | none => none
  | some [] => none
  | some (c :: rest) => some (String.ofList (c :: rest))

end Degraded

end GateOperator
