import GateOperator.Data.Names
import GateOperator.Object.Gate
import GateOperator.Version.Parser

/-!
The policy of a feature set: the gates it switches on and the gates it switches off. A well-formed policy
names no gate twice, and each requirement of its gates names a component and a semantic version.
-/

namespace GateOperator

/-- The gates that a feature set switches on and off. -/
structure Policy where
  enabled : List Gate
  disabled : List Gate
deriving DecidableEq, Inhabited

/-- One of the two lists of a policy. -/
inductive GateList where
  | enabled
  | disabled
deriving DecidableEq

/-- The word for a list. -/
def GateList.text : GateList → String
  | enabled => "enabled"
  | disabled => "disabled"

/-- Why a policy is not well formed. -/
inductive PolicyFault where
  /-- A gate stands twice in one list. -/
  | repeated (gate : String) (list : GateList)
  /-- A gate stands in both lists. -/
  | conflicting (gate : String)
  /-- A requirement of the gate names no component. -/
  | missingComponent (gate : String)
  /-- A requirement of the gate names a version that does not parse. -/
  | malformedVersion (gate : String) (requirement : Requirement) (reason : Version.ParseError)
deriving DecidableEq

namespace Policy

/-- The policy without gates. -/
def empty : Policy := ⟨[], []⟩

/-- All gates, those switched on first. -/
def gates (p : Policy) : List Gate := p.enabled ++ p.disabled

/-- The names of the gates switched on. -/
def enabledNames (p : Policy) : List String := p.enabled.map (·.name)

/-- The names of the gates switched off. -/
def disabledNames (p : Policy) : List String := p.disabled.map (·.name)

/-- What is wrong with one requirement of a gate. -/
def requirementFault? (gate : String) (r : Requirement) : Option PolicyFault :=
  if r.component = "" then some (.missingComponent gate)
  else
    match Version.parse r.version with
    | .error reason => some (.malformedVersion gate r reason)
    | .ok _ => none

/-- What is wrong with the first faulty requirement of a gate. -/
def gateFault? (g : Gate) : Option PolicyFault := g.requirements.findSome? (requirementFault? g.name)

/-- The first fault: a repeated gate, then a conflicting one, then a requirement. -/
def fault? (p : Policy) : Option PolicyFault :=
  ((Names.firstRepeated? p.enabledNames).map (.repeated · .enabled)).or <|
  ((Names.firstRepeated? p.disabledNames).map (.repeated · .disabled)).or <|
  ((Names.leastCommon? p.enabledNames p.disabledNames).map .conflicting).or <|
  p.gates.findSome? gateFault?

end Policy

end GateOperator
