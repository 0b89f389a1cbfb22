import GateOperator.Data.Word

/-!
Values of the object notations: what a text in JSON or YAML says, before it is read as an object of the
cluster. A record keeps its fields in the order in which they were given.
-/

namespace GateOperator

/-- A value of an object notation. -/
inductive Value where
  | null
  | bool (b : Bool)
  | int (i : Int)
  | real (x : Float)
  | text (s : String)
  | list (items : List Value)
  | record (fields : List (String × Value))
  /-- A map with names that are not all texts. -/
  | mapping (entries : List (Value × Value))
  /-- A value under a tag of its own. -/
  | tagged (tag : String) (value : Value)

namespace Value

instance : Inhabited Value := ⟨null⟩

/-- The last value given for a field of a record. -/
def field? : Value → String → Option Value
  | record fields, name => fields.reverse.lookup name
  | _, _ => none

/-- What stands under all tags. -/
def untag : Value → Value
  | tagged _ v => v.untag
  | v => v

/-- The text, if it is one and has no tag. -/
def bareText? : Value → Option String
  | text s => some s
  | _ => none

/-- The text, if it is one. -/
def text? (v : Value) : Option String := v.untag.bareText?

/-- The truth value, if it is one. -/
def bool? (v : Value) : Option Bool :=
  match v.untag with
  | bool b => some b
  | _ => none

/-- The integer, if it is one that fits 64 bits with a sign. -/
def int? (v : Value) : Option Int :=
  match v.untag with
  | int i => if Word.HoldsSigned 64 i then some i else none
  | _ => none

/-- Nothing is given. -/
def isNull : Value → Bool
  | null => true
  | _ => false

/-- A record of the fields that are present. -/
def ofFields (fields : List (Option (String × Value))) : Value := record (fields.filterMap id)

end Value

end GateOperator
