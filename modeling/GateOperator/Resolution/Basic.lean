import GateOperator.Object.FeatureGate
import GateOperator.Resolution.Requirement

/-!
Sorting all known gates into on and off. A gate that is wanted on is on when every requirement it carries
is met; all others are off. Both lists are in ascending order of name, so equal resolutions are equal
values.
-/

namespace GateOperator

/-- Why a gate ends up on one side. -/
inductive Verdict where
  | on
  /-- It is not wanted on. -/
  | off
  /-- It is wanted on but a requirement is not met. -/
  | kept (reason : Unmet)
deriving DecidableEq

/-- All known gates, each on or off. -/
structure Partition where
  enabled : List Gate
  disabled : List Gate
deriving DecidableEq

namespace Partition

/-- The names of the gates that are on. -/
def enabledNames (p : Partition) : List String := p.enabled.map (·.name)

/-- The names of the gates that are off. -/
def disabledNames (p : Partition) : List String := p.disabled.map (·.name)

/-- The partition as the snapshot of a release. -/
def snapshot (p : Partition) (version : String) : Snapshot := ⟨version, p.enabled, p.disabled⟩

/-- The gates of a list of verdicts, on and off. -/
def ofVerdicts (verdicts : List (Gate × Verdict)) : Partition where
  enabled := (verdicts.filter fun v => v.2 = .on).map (·.1)
  disabled := (verdicts.filter fun v => v.2 ≠ .on).map (·.1)

end Partition

namespace Selection

def verdict (s : Selection) (observed : Observations) (g : Gate) : Except ResolveError Verdict :=
  if s.wants g.name then
    match g.unmet? observed with
    | .error e => .error e
    | .ok none => .ok .on
    | .ok (some reason) => .ok (.kept reason)
  else .ok .off

/-- The verdicts on all gates of the selection, in ascending order of name. -/
def verdicts (s : Selection) (observed : Observations) : Except ResolveError (List (Gate × Verdict)) :=
  s.gates.mapM fun g => (s.verdict observed g).map fun v => (g, v)

end Selection

/-- The verdicts on all gates under a feature set. -/
def verdicts (c : Catalog) (featureSet : String) (custom : Option CustomSelection) (observed : Observations) :
    Except ResolveError (List (Gate × Verdict)) :=
  Selection.of c featureSet custom >>= (·.verdicts observed)

/-- All gates under a feature set, on and off. -/
def resolve (c : Catalog) (featureSet : String) (custom : Option CustomSelection) (observed : Observations) :
    Except ResolveError Partition :=
  (verdicts c featureSet custom observed).map .ofVerdicts

/-- The snapshot of a release for the specification of a feature gate object. -/
def FeatureGateSpec.snapshot (spec : FeatureGateSpec) (c : Catalog) (version : String)
    (observed : Observations) : Except ResolveError Snapshot :=
  (resolve c spec.featureSet spec.custom observed).map (·.snapshot version)

end GateOperator
