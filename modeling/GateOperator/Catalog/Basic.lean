import GateOperator.Catalog.Policy
import GateOperator.Data.NameMap

/-!
The catalog of feature sets: a policy for each name. It is built from registrations in turn, each of which
must bring a well-formed policy under a name that is not taken.
-/

namespace GateOperator

/-- The policies of the known feature sets. -/
structure Catalog where
  featureSets : NameMap Policy
deriving DecidableEq

/-- A feature set with its policy. -/
abbrev Registration := String × Policy

/-- Why no catalog can be built. -/
inductive CatalogError where
  | repeatedFeatureSet (featureSet : String)
  | policy (featureSet : String) (fault : PolicyFault)
deriving DecidableEq

namespace CatalogError

open Text.Quoted in
/-- The words for a fault in the policy of a feature set. -/
def policyMessage (featureSet : String) : PolicyFault → String
  | .repeated gate list =>
    "feature gate " ++ ofString gate ++ " is " ++ list.text ++ " twice in feature set " ++ ofString featureSet
  | .conflicting gate =>
    "feature gate " ++ ofString gate ++ " is both enabled and disabled in feature set " ++ ofString featureSet
  | .missingComponent gate =>
    "feature gate " ++ ofString gate ++ " in feature set " ++ ofString featureSet ++
      " declares a minimum version without a component"
  | .malformedVersion gate requirement reason =>
    "feature gate " ++ ofString gate ++ " in feature set " ++ ofString featureSet ++ " requires " ++
      requirement.component ++ " version " ++ ofString requirement.version ++ ", which does not parse: " ++
      reason.message

/-- The words for an error. -/
def message : CatalogError → String
  | repeatedFeatureSet featureSet =>
    "feature set " ++ Text.Quoted.ofString featureSet ++ " is defined more than once"
  | policy featureSet fault => policyMessage featureSet fault

end CatalogError

namespace Catalog

/-- The catalog without feature sets. -/
def empty : Catalog := ⟨.empty⟩

/-- Adds a feature set; a fault of its policy counts before a name that is taken. -/
def register (c : Catalog) (r : Registration) : Except CatalogError Catalog :=
  match r.2.fault? with
  | some fault => .error (.policy r.1 fault)
  | none =>
    if c.featureSets.contains r.1 then .error (.repeatedFeatureSet r.1)
    else .ok ⟨c.featureSets.insert r.1 r.2⟩

/-- The catalog of a sequence of registrations. -/
def build (registrations : List Registration) : Except CatalogError Catalog :=
  registrations.foldlM register empty

def policy? (c : Catalog) (featureSet : String) : Option Policy := c.featureSets.find? featureSet

/-- The number of feature sets. -/
def size (c : Catalog) : Nat := c.featureSets.entries.length

/-- There is no feature set. -/
def isEmpty (c : Catalog) : Bool := c.featureSets.entries.isEmpty

/-- All gates of all feature sets, in order of the names of the sets. -/
def gates (c : Catalog) : List Gate := c.featureSets.values.flatMap Policy.gates

/-- Every gate that some feature set names, in ascending order. -/
def knownNames (c : Catalog) : List String := Names.ofList (c.gates.map (·.name))

/-- The gates in the order in which their requirements count: those of the preferred set come first. -/
def declarations (c : Catalog) (preferred : String) : List Gate :=
  ((c.policy? preferred).map Policy.gates).getD [] ++ c.gates

/-- The requirements of a gate: those of the first declaration that has any. -/
def requirements (c : Catalog) (preferred gate : String) : List Requirement :=
  (((c.declarations preferred).find? fun g => g.name = gate && !g.requirements.isEmpty).map
    (·.requirements)).getD []

/-- The gates that have requirements, in ascending order of name, each with what it requires. -/
def minimumVersions (c : Catalog) (preferred : String) : List (String × List Requirement) :=
  c.knownNames.filterMap fun name =>
    match c.requirements preferred name with
    | [] => none
    | requirements => some (name, requirements)

end Catalog

end GateOperator
