import GateOperator.Object.FeatureGate
import GateOperator.Yaml.Reader

/-!
Manifests: YAML texts that describe one object each. Only the kind of feature gate objects matters; a
manifest of another kind is well formed but of no interest.
-/

namespace GateOperator

/-- What a manifest describes. -/
inductive Manifest where
  | featureGate (fg : FeatureGate)
  | other

namespace Manifest

/-- The feature gate object that a manifest describes. -/
def object? : Manifest → Option FeatureGate
  | featureGate fg => some fg
  | other => none

theorem object?_eq_some_iff {described : Manifest} {fg : FeatureGate} :
    described.object? = some fg ↔ described = .featureGate fg := by
  cases described <;> simp [object?]

/-- The kind that a value names; a name under a tag is another one. -/
def kind? (v : Value) : Option String :=
  match v.untag with
  | .record fields => (fields.lookup "kind").bind Value.text?
  | .mapping entries => (entries.find? fun e => e.1.bareText? = some "kind").bind fun e => e.2.text?
  | _ => none

/-- The manifest that a value describes. -/
def ofValue? (v : Value) : Option Manifest :=
  if kind? v = some FeatureGate.kind.name then
    (Resource.read? FeatureGate.kind .yaml v).map .featureGate
  else some .other

/-- The manifest that a text describes; none when it is no YAML, or no object of its kind. -/
def read? (text : String) : Option Manifest := Yaml.read? text >>= ofValue?

end Manifest

end GateOperator
