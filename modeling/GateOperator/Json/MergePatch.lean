import GateOperator.Data.Value

/-!
Merge patches: a patch that is a record changes the fields it names and keeps the others, and null takes a
field away; any other patch replaces the whole value.
-/

namespace GateOperator.Json

namespace MergePatch

/-- Puts a value under a field, in place of the one that was there. -/
def setField (name : String) (value : Value) : List (String × Value) → List (String × Value)
  | [] => [(name, value)]
  | (other, old) :: fields =>
    if other = name then (name, value) :: fields else (other, old) :: setField name value fields

/-- Takes a field away. -/
def removeField (name : String) (fields : List (String × Value)) : List (String × Value) :=
  fields.filter fun field => field.1 ≠ name

/-- The fields of a record; anything else has none. -/
def fieldsOf : Value → List (String × Value)
  | .record fields => fields
  | _ => []

mutual

/-- A value after a patch. -/
def apply (target : Value) : Value → Value
  | .record patch => .record (applyFields (fieldsOf target) patch)
  | patch => patch

/-- The fields of a record after the fields of a patch. -/
def applyFields (fields : List (String × Value)) : List (String × Value) → List (String × Value)
  | [] => fields
  | (name, .null) :: patch => applyFields (removeField name fields) patch
  | (name, value) :: patch =>
    applyFields (setField name (apply ((fields.lookup name).getD .null) value) fields) patch

end

end MergePatch

end GateOperator.Json
