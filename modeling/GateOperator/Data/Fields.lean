import GateOperator.Data.NameMap
import GateOperator.Data.Value

/-!
Reading objects from values. A record gives its fields by name: unknown fields are passed over, and a
field declared by the object must not be given twice. The notations differ in three respects: whether a
list may give the fields by position, whether null stands for an empty list, map or record, and whether these
may stand under tags. A null under a tag is not nothing, but may be empty.
-/

namespace GateOperator

/-- How a notation stands for lists, maps and records. -/
structure Dialect where
  /-- A list gives the fields of a record in the order of their declaration. -/
  byPosition : Bool
  /-- Null is an empty list, an empty map and a record without fields. -/
  emptyFromNull : Bool
  /-- Lists, maps, records and their names may stand under tags. -/
  throughTags : Bool
deriving DecidableEq

namespace Dialect

/-- Records may be lists, and null is nothing but null. -/
def json : Dialect := ⟨true, false, false⟩

/-- Records have names for their fields, null may be empty, and tags do not count. -/
def yaml : Dialect := ⟨false, true, true⟩

/-- The value that is read as a list, a map or a record. -/
def bare (dialect : Dialect) : Value → Value
  | .tagged tag v => if dialect.throughTags then v.untag else .tagged tag v
  | v => v

end Dialect

/-- The entries of a map, if all its names are texts. -/
def Value.named? (entries : List (Value × Value)) : Option (List (String × Value)) :=
  entries.mapM fun entry => entry.1.text?.map fun name => (name, entry.2)

/-- The fields of a record. -/
def Value.fields? (dialect : Dialect) : Value → Option (List (String × Value))
  | record fields => some fields
  | mapping entries => if dialect.throughTags then named? entries else none
  | _ => none

/-- The fields that a value gives out of those an object declares. -/
structure Fields where
  /-- They were given by position. -/
  byPosition : Bool
  given : List (String × Value)

namespace Fields

/-- Reads the declared fields; those given by name only when `byName` is set. -/
def read (dialect : Dialect) (byName : Bool) (declared : List String) (v : Value) : Option Fields :=
  match dialect.bare v with
  | .list items =>
    if dialect.byPosition && !byName && items.length ≤ declared.length then some ⟨true, declared.zip items⟩
    else none
  | .null => if dialect.emptyFromNull then some ⟨false, []⟩ else none
  | v => do
    let given := (← v.fields? dialect).filter fun field => declared.contains field.1
    if (Names.firstRepeated? (given.map (·.1))).isSome then none else some ⟨false, given⟩

/-- The fields of a record that may be given by name or by position. -/
def of? (dialect : Dialect) (declared : List String) : Value → Option Fields := read dialect false declared

/-- The value given for a field. -/
def get? (fields : Fields) (name : String) : Option Value := fields.given.lookup name

variable {α : Type}

/-- A field that has to be given. -/
def required (fields : Fields) (name : String) (read : Value → Option α) : Option α :=
  fields.get? name >>= read

/-- A field that may be left out for a default. -/
def withDefault (fields : Fields) (name : String) (default : α) (read : Value → Option α) : Option α :=
  match fields.get? name with
  | none => some default
  | some v => read v

/-- A value that may be null. -/
def nullable (read : Value → Option α) : Value → Option (Option α)
  | .null => some none
  | v => (read v).map some

/-- A field that may be null or left out. -/
def optional (fields : Fields) (name : String) (read : Value → Option α) : Option (Option α) :=
  fields.withDefault name none (nullable read)

/-- A field that may be null, and may be left out where fields are named. -/
def nameable (fields : Fields) (name : String) (read : Value → Option α) : Option (Option α) :=
  match fields.get? name with
  | none => if fields.byPosition then none else some none
  | some v => nullable read v

end Fields

namespace Value

variable {α : Type}

def items? (dialect : Dialect) (v : Value) : Option (List Value) :=
  match dialect.bare v with
  | list items => some items
  | null => if dialect.emptyFromNull then some [] else none
  | _ => none

/-- A list, read item by item. -/
def listOf? (dialect : Dialect) (read : Value → Option α) (v : Value) : Option (List α) :=
  v.items? dialect >>= List.mapM read

/-- A map from names, read value by value; the last of several under one name stays. -/
def mapOf? (dialect : Dialect) (read : Value → Option α) (v : Value) : Option (NameMap α) :=
  match dialect.bare v with
  | null => if dialect.emptyFromNull then some NameMap.empty else none
  | v => do
    let entries ← (← v.fields? dialect).mapM fun field => (read field.2).map fun x => (field.1, x)
    return NameMap.ofList entries

mutual

/-- The value in the form of JSON: without tags, its maps as records in ascending order of their names, and null
    where it has no number. -/
def json? : Value → Option Value
  | null => some null
  | bool b => some (bool b)
  | int i => some (int i)
  | real x => some (if x.isFinite then real x else null)
  | text s => some (text s)
  | list items => (jsonItems? items).map list
  | record fields => (jsonFields? fields).map fun fields => record (NameMap.ofList fields).entries
  | mapping entries => (jsonEntries? entries).map fun fields => record (NameMap.ofList fields).entries
  | tagged _ _ => none

/-- The items of a list in the form of JSON. -/
def jsonItems? : List Value → Option (List Value)
  | [] => some []
  | v :: items => do return (← json? v) :: (← jsonItems? items)

/-- The fields of a record in the form of JSON. -/
def jsonFields? : List (String × Value) → Option (List (String × Value))
  | [] => some []
  | (name, v) :: fields => do return (name, ← json? v) :: (← jsonFields? fields)

/-- The entries of a map in the form of JSON; only here may a name stand under a tag. -/
def jsonEntries? : List (Value × Value) → Option (List (String × Value))
  | [] => some []
  | (key, v) :: entries => do return (← key.text?, ← json? v) :: (← jsonEntries? entries)

end

/-- A field that is always written. -/
def always (name : String) (v : Value) : Option (String × Value) := some (name, v)

/-- A field that is written when there is something to write. -/
def whenSome (name : String) (write : α → Value) : Option α → Option (String × Value)
  | none => none
  | some x => some (name, write x)

/-- A list that is written unless it is empty. -/
def whenSomeItems (name : String) (write : α → Value) (items : List α) : Option (String × Value) :=
  if items.isEmpty then none else some (name, list (items.map write))

/-- A map, in ascending order of its names. -/
def ofMap (write : α → Value) (m : NameMap α) : Value :=
  record (m.entries.map fun entry => (entry.1, write entry.2))

end Value

end GateOperator
