/-!
The nodes of a YAML document, with aliases still standing for the nodes they name.
-/

namespace GateOperator.Yaml

/-- A node of a document. -/
inductive Node where
  | scalar (tag : Option String) (isPlain : Bool) (text : String)
  | list (tag : Option String) (items : List Node)
  | map (tag : Option String) (entries : List (Node × Node))
  /-- The node under the number of an anchor. -/
  | reuse (anchor : Nat)

namespace Node

instance : Inhabited Node := ⟨reuse 0⟩

/-- What stands where nothing is written. -/
def empty : Node := scalar none true ""

end Node

/-- A document: its root, the nodes that have anchors, and a measure of its size. -/
structure Document where
  root : Node
  anchored : List (Nat × Node)
  /-- The number of scalars, aliases, and starts and ends of collections. -/
  size : Nat

end GateOperator.Yaml
