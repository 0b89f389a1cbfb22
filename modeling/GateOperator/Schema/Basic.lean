import GateOperator.Data.Fields

/-!
Schemas of objects: texts, lists and records, with what is said about each. A value fits a schema when it
has the form that the schema gives; null fits where the schema allows it.
-/

namespace GateOperator

/-- What is said about a value of a schema. -/
structure Annotations where
  description : Option String := none
  /-- The value may be null. -/
  nullable : Bool := false
  /-- What stands for a missing value. -/
  default : Option Value := none
  title : Option String := none

/-- The form of a value. -/
inductive Schema where
  | text (about : Annotations)
  | list (about : Annotations) (items : Schema)
  /-- A record of named fields, with the names of those that must be there. -/
  | record (about : Annotations) (fields : List (String × Schema)) (required : List String)

namespace Schema

/-- What is said about a value of the schema. -/
def annotations : Schema → Annotations
  | text about => about
  | list about _ => about
  | record about _ _ => about

mutual

/-- A schema as a value, with its keys in ascending order. -/
def write : Schema → Value
  | text about => parts about "string" none none []
  | list about items => parts about "array" (some (write items)) none []
  | record about fields required => parts about "object" none (some (writeFields fields)) required
where
  /-- The parts that are there, in ascending order of their keys. -/
  parts (about : Annotations) (type : String) (items : Option Value) (properties : Option (List (String × Value)))
      (required : List String) : Value := .ofFields [
    Value.whenSome "default" id about.default,
    Value.whenSome "description" .text about.description,
    Value.whenSome "items" id items,
    if about.nullable then Value.always "nullable" (.bool true) else none,
    (properties.filter (!·.isEmpty)).map fun fields => ("properties", .record fields),
    if required.isEmpty then none else Value.always "required" (.list (required.map .text)),
    Value.whenSome "title" .text about.title,
    Value.always "type" (.text type)]

def writeFields : List (String × Schema) → List (String × Value)
  | [] => []
  | (name, s) :: fields => (name, write s) :: writeFields fields

end

end Schema

end GateOperator
