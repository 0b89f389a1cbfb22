import GateOperator.Log.Basic
import GateOperator.Render

/-!
What is logged while manifests are rendered: the gates that are kept off, and each manifest that is written.
-/

namespace GateOperator

/-- What is logged about a gate that is wanted on and has to stay off. -/
def Unmet.entry (reason : Unmet) (g : Gate) : Log.Entry where
  level := .debug
  target := Log.part ["featuregates", "resolver"]
  message := "Disabling feature gate"
  fields := [("feature", .text g.name), ("reason", .text reason.message)]

/-- What is logged about the verdict on a gate. -/
def Verdict.logged? (g : Gate) : Verdict → Option Log.Entry
  | kept reason => some (reason.entry g)
  | on | off => none

namespace Render

/-- What is logged while an object is resolved. -/
def resolveEntries (c : Catalog) (fg : FeatureGate) : List Log.Entry :=
  match verdicts c fg.spec.featureSet fg.spec.custom .empty with
  | .error _ => []
  | .ok verdicts => verdicts.filterMap fun v => v.2.logged? v.1

/-- What is logged about a manifest that is written. -/
def writtenEntry (version path : String) (fg : FeatureGate) : Log.Entry where
  level := .info
  target := Log.part ["render"]
  message := "Rendered FeatureGate manifest"
  fields := [("path", .text path), ("feature_set", .text fg.spec.featureSet), ("version", .text version)]

/-- What is logged about objects that are rendered one after the other. -/
def renderEntries (c : Catalog) (version : String) : Files.Tree → List (String × FeatureGate) → List Log.Entry
  | _, [] => []
  | files, (path, fg) :: manifests =>
    resolveEntries c fg ++
      match renderOne c version files path fg with
      | .error _ => []
      | .ok files => writtenEntry version path fg :: renderEntries c version files manifests

/-- What is logged while a request is carried out. -/
def entries (files : Files.Tree) (r : RenderRequest) : List Log.Entry :=
  match readInputs files r.inputs with
  | .error _ => []
  | .ok manifests =>
    Catalog.loadEntries r.authoritative (.ofPath files r.authoritative) r.version r.profile ++
      match catalog files r with
      | .error _ => []
      | .ok c => renderEntries c r.version files manifests

end Render

end GateOperator
