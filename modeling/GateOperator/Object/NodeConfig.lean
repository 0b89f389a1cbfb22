import GateOperator.Object.Resource

/-!
The node configuration object, which holds the lowest kubelet version that may join the cluster.
-/

namespace GateOperator

/-- The specification of the node configuration; an empty version is none. -/
structure NodeConfigSpec where
  minimumKubeletVersion : String
deriving DecidableEq, Inhabited

/-- A node configuration object, which has no status. -/
abbrev NodeConfig := Resource NodeConfigSpec Empty

namespace NodeConfigSpec

def read? (dialect : Dialect) (v : Value) : Option NodeConfigSpec := do
  let fields ← Fields.of? dialect ["minimumKubeletVersion"] v
  return ⟨← fields.withDefault "minimumKubeletVersion" "" Value.text?⟩

/-- The specification of the node configuration as a value; an empty version is not written. -/
def write (s : NodeConfigSpec) : Value := .ofFields [
  if s.minimumKubeletVersion = "" then none
  else Value.always "minimumKubeletVersion" (.text s.minimumKubeletVersion)]

end NodeConfigSpec

namespace NodeConfig

def kind : Kind NodeConfigSpec Empty where
  name := "Node"
  plural := "nodes"
  readSpec := NodeConfigSpec.read?
  writeSpec := NodeConfigSpec.write
  readStatus := fun _ _ => none
  writeStatus := nofun
  hasStatus := false

end NodeConfig

end GateOperator
