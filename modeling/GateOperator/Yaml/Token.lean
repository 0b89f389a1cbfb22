/-!
The tokens of a YAML text. Block collections, which a text shows by indentation alone, have tokens at
their start and end, and a key has one in front of it.
-/

namespace GateOperator.Yaml

/-- A token of a YAML text. -/
inductive Token where
  | version (major minor : Nat)
  | tagHandle (handle tagStart : String)
  | documentStart
  | documentEnd
  | blockList
  | blockMap
  | blockEnd
  | flowListStart
  | flowListEnd
  | flowMapStart
  | flowMapEnd
  | blockEntry
  | flowEntry
  | key
  | value
  | reuse (name : String)
  | anchor (name : String)
  | tag (handle suffix : String)
  /-- A scalar; a plain one has no quotes and no block of its own. -/
  | scalar (isPlain : Bool) (text : String)
deriving DecidableEq

end GateOperator.Yaml
