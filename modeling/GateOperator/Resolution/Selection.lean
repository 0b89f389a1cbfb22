import GateOperator.Catalog.Basic

/-!
What a feature set selects: the gates to be sorted, those of them that are wanted on, and the requirements
each of them carries. The set for custom selections is not looked up: it is the default set with the gates
that an administrator forces on or off, and with the requirements of the default set alone.
-/

namespace GateOperator

/-- The feature set that is meant when none is named. -/
def defaultFeatureSet : String := "Default"

/-- The feature set under which gates may be forced on or off. -/
def customFeatureSet : String := "CustomNoUpgrade"

/-- The feature set that an object selects; the empty name stands for the default one. -/
def effectiveFeatureSet (featureSet : String) : String :=
  if featureSet = "" then defaultFeatureSet else featureSet

/-- Why gates cannot be sorted. -/
inductive ResolveError where
  | featureSetNotFound (featureSet : String)
  /-- A gate is forced on and off. -/
  | conflictingOverride (gate : String)
  /-- The observed version of a component does not parse. -/
  | invalidObservedVersion (gate component version : String) (reason : Version.ParseError)
deriving DecidableEq

open Text.Quoted in
/-- The words for an error. -/
def ResolveError.message : ResolveError → String
  | featureSetNotFound featureSet => ".spec.featureSet " ++ ofString featureSet ++ " not found"
  | conflictingOverride gate => "trying to enable and disable " ++ ofString gate
  | invalidObservedVersion gate component version reason =>
    "observed minimum " ++ component ++ " version " ++ ofString version ++ " for feature gate " ++
      ofString gate ++ " does not parse: " ++ reason.message

/-- The gates to be sorted into on and off. -/
structure Selection where
  /-- All gates, in ascending order of name. -/
  names : List String
  /-- The gate is wanted on. -/
  wants : String → Bool
  /-- The requirements of a gate. -/
  requirements : String → List Requirement

namespace Selection

/-- The names of a custom list; empty ones do not count. -/
def overrides (names : List String) : List String := names.filter (· ≠ "")

/-- The gates of a feature set of the catalog. -/
def ofFeatureSet (c : Catalog) (featureSet : String) : Except ResolveError Selection :=
  match c.policy? featureSet with
  | none => .error (.featureSetNotFound featureSet)
  | some policy => .ok {
      names := c.knownNames
      wants := fun name => policy.enabledNames.contains name
      requirements := c.requirements featureSet }

/-- The gates of a custom selection over the default set. -/
def ofCustom (c : Catalog) (custom : CustomSelection) : Except ResolveError Selection :=
  let on := overrides custom.enabled
  let off := overrides custom.disabled
  let default := (c.policy? defaultFeatureSet).getD .empty
  match Names.leastCommon? on off with
  | some gate => .error (.conflictingOverride gate)
  | none => .ok {
      names := Names.ofList (c.knownNames ++ on ++ off)
      wants := fun name => on.contains name || (default.enabledNames.contains name && !off.contains name)
      requirements := fun name => ((default.gates.find? (·.name = name)).map (·.requirements)).getD [] }

/-- The gates that a feature set selects; a custom selection counts for the custom set only. -/
def of (c : Catalog) (featureSet : String) (custom : Option CustomSelection) : Except ResolveError Selection :=
  if effectiveFeatureSet featureSet = customFeatureSet then ofCustom c (custom.getD ⟨[], []⟩)
  else ofFeatureSet c (effectiveFeatureSet featureSet)

/-- A gate of the selection with what it requires. -/
def gate (s : Selection) (name : String) : Gate := ⟨name, s.requirements name⟩

/-- All gates of the selection, in ascending order of name. -/
def gates (s : Selection) : List Gate := s.names.map s.gate

end Selection

end GateOperator
