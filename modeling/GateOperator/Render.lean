import GateOperator.Catalog.Load
import GateOperator.Resolution.Basic
import GateOperator.Yaml.Writer

/-!
Rendering manifests for an installation: each feature gate object among the inputs gets one snapshot, that
of the payload's release with nothing observed. All inputs are read before the first one is written.
-/

namespace GateOperator

/-- What is to be rendered. -/
structure RenderRequest where
  inputs : List String
  /-- The directory of the manifests that make up the catalog. -/
  authoritative : String
  version : String
  profile : String

/-- Why rendering fails. -/
inductive RenderError where
  | noInputs
  | unreadable (path : String) (error : Files.FileError)
  | malformed (path : String)
  | noFeatureGates (paths : List String)
  | catalog (error : LoadError)
  | resolve (path : String) (error : ResolveError)
  | unwritable (path : String) (error : Files.FileError)
deriving DecidableEq

namespace RenderError

/-- What was being done, and what went wrong if that is not the same. -/
def parts (malformedText : String) : RenderError → String × Option String
  | noInputs => ("cannot return FeatureGate without rendered manifests", none)
  | unreadable path error => ("error reading input manifest " ++ path, some error.message)
  | malformed path => ("error decoding " ++ path ++ ": " ++ malformedText, none)
  | noFeatureGates paths => ("no FeatureGates found in rendered manifests: " ++ ", ".intercalate paths, none)
  | catalog error => ("unable to load the feature set catalog", some (error.messageWith malformedText))
  | resolve path error => ("error determining FeatureGates for " ++ path, some error.message)
  | unwritable path error => ("error writing FeatureGate manifest " ++ path, some error.message)

/-- The words for an error; `malformedText` are those for a text that cannot be read. -/
def messageWith (malformedText : String) (e : RenderError) : String :=
  match e.parts malformedText with
  | (doing, none) => doing
  | (doing, some cause) => doing ++ ": " ++ cause

end RenderError

/-- The object with the one snapshot of a release; its conditions are kept. -/
def FeatureGate.render (fg : FeatureGate) (c : Catalog) (version : String) : Except ResolveError FeatureGate :=
  (fg.spec.snapshot c version .empty).map fun s =>
    { fg with status := some { fg.status.getD .empty with snapshots := [s] } }

/-- The object as a manifest. -/
def FeatureGate.manifest (fg : FeatureGate) : String := Yaml.write (fg.write FeatureGate.kind)

namespace Render

/-- The object of one input; nothing when it holds another kind. -/
def readInput (files : Files.Tree) (path : String) : Except RenderError (Option (String × FeatureGate)) :=
  match files.readText path with
  | .error error => .error (.unreadable path error)
  | .ok text =>
    match Manifest.read? text with
    | none => .error (.malformed path)
    | some .other => .ok none
    | some (.featureGate fg) => .ok (some (path, fg))

/-- The objects among the inputs, each with its path. -/
def readInputs (files : Files.Tree) (inputs : List String) : Except RenderError (List (String × FeatureGate)) := do
  if inputs.isEmpty then throw .noInputs
  let manifests := (← inputs.mapM (readInput files)).filterMap id
  if manifests.isEmpty then throw (.noFeatureGates inputs)
  return manifests

/-- Renders one object and writes it. -/
def renderOne (c : Catalog) (version : String) (files : Files.Tree) (path : String) (fg : FeatureGate) :
    Except RenderError Files.Tree :=
  match fg.render c version with
  | .error error => .error (.resolve path error)
  | .ok fg => (files.write path fg.manifest.toUTF8).mapError (.unwritable path)

/-- Renders and writes one object after the other; the files already written stay when a later one fails. -/
def renderAll (c : Catalog) (version : String) :
    Files.Tree → List (String × FeatureGate) → Files.Tree × Option RenderError
  | files, [] => (files, none)
  | files, (path, fg) :: manifests =>
    match renderOne c version files path fg with
    | .error error => (files, some error)
    | .ok files => renderAll c version files manifests

def catalog (files : Files.Tree) (r : RenderRequest) : Except RenderError Catalog :=
  (Catalog.load r.authoritative (.ofPath files r.authoritative) r.version r.profile).mapError .catalog

/-- The files after rendering, and the number of objects rendered. -/
def run (files : Files.Tree) (r : RenderRequest) : Files.Tree × Except RenderError Nat :=
  match readInputs files r.inputs with
  | .error error => (files, .error error)
  | .ok manifests =>
    match catalog files r with
    | .error error => (files, .error error)
    | .ok c =>
      match renderAll c r.version files manifests with
      | (files, none) => (files, .ok manifests.length)
      | (files, some error) => (files, .error error)

end Render

end GateOperator
