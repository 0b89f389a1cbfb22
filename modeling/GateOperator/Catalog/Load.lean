import GateOperator.Catalog.Basic
import GateOperator.Catalog.Profile
import GateOperator.Files.View
import GateOperator.Log.Basic
import GateOperator.Manifest
import GateOperator.Resolution.Selection

/-!
Loading the catalog from a directory of manifests. Every file below the directory must be a manifest of a
feature gate object, whether it is meant for the cluster profile or not. Each one that is meant for it
registers its feature set with the gates that it records for the running release.
-/

namespace GateOperator

/-- Why a file is no manifest of a feature gate object. -/
inductive ManifestFault where
  | otherKind
  | malformed
deriving DecidableEq

/-- Why no catalog can be loaded. -/
inductive LoadError where
  | unreadable (path : String) (error : Files.FileError)
  | notManifest (path : String) (fault : ManifestFault)
  | noManifests (directory : String)
  | catalog (error : CatalogError)
deriving DecidableEq

/-- The words for a text that cannot be read as an object. -/
def Manifest.malformedText : String := "the text does not describe an object of its kind"

/-- The words for a fault; `malformed` are those for a text that cannot be read. -/
def ManifestFault.messageWith (malformed : String) : ManifestFault → String
  | otherKind => "kind is not " ++ FeatureGate.kind.name
  | .malformed => malformed

namespace LoadError

/-- The words for an error; `malformed` are those for a text that cannot be read. -/
def messageWith (malformed : String) : LoadError → String
  | unreadable path error => "unable to read " ++ path ++ ": " ++ error.message
  | notManifest path fault => path ++ " is not a FeatureGate manifest: " ++ fault.messageWith malformed
  | noManifests directory => "feature gates not located in " ++ directory
  | catalog error => error.message

/-- The words for an error. -/
def message : LoadError → String := messageWith Manifest.malformedText

end LoadError

namespace Catalog

/-- The object that a file describes. -/
def readManifest (path : String) (content : Except Files.FileError ByteArray) : Except LoadError FeatureGate :=
  match content >>= Files.text? with
  | .error error => .error (.unreadable path error)
  | .ok text =>
    match Manifest.read? text with
    | none => .error (.notManifest path .malformed)
    | some .other => .error (.notManifest path .otherKind)
    | some (.featureGate fg) => .ok fg

/-- The gates that an object records for a release: those of its first snapshot of it, or none. -/
def policyOf (fg : FeatureGate) (release : String) : Policy :=
  match fg.snapshots.find? fun s => s.version = release with
  | some s => ⟨s.enabled, s.disabled⟩
  | none => .empty

/-- What an object registers for a release. -/
def registrationOf (release : String) (fg : FeatureGate) : Registration :=
  (effectiveFeatureSet fg.spec.featureSet, policyOf fg release)

/-- The catalog of the objects that are meant for a profile. -/
def ofManifests (directory release profile : String) (manifests : List FeatureGate) :
    Except LoadError Catalog :=
  match manifests.filter fun fg => Profile.applies profile fg.metadata with
  | [] => .error (.noManifests directory)
  | applying => (build (applying.map (registrationOf release))).mapError .catalog

/-- The files below a directory, each with its path. -/
def manifestFiles (directory : String) (v : Files.View) :
    Except LoadError (List (String × Except Files.FileError ByteArray)) :=
  match v with
  | .directory entries => .ok ((Files.View.files entries).map fun f => (Files.join directory f.1, f.2))
  | .file _ => .error (.unreadable directory .notDirectory)
  | .unreadable error => .error (.unreadable directory error)

def load (directory : String) (v : Files.View) (release profile : String) : Except LoadError Catalog := do
  let files ← manifestFiles directory v
  let manifests ← files.mapM fun f => readManifest f.1 f.2
  ofManifests directory release profile manifests

/-- The part of the program that loads catalogs. -/
def loadTarget : String := Log.part ["featuregates", "loader"]

/-- What is logged about one manifest. -/
def manifestEntry (release profile path : String) (fg : FeatureGate) : Log.Entry :=
  if Profile.applies profile fg.metadata then
    let (featureSet, policy) := registrationOf release fg
    { level := .debug, target := loadTarget, message := "Loaded feature set manifest", fields := [
        ("path", .text path), ("feature_set", .text featureSet),
        ("enabled", .int policy.enabled.length), ("disabled", .int policy.disabled.length)] }
  else
    { level := .debug, target := loadTarget, message := "Skipping manifest for another cluster profile"
      fields := [("path", .text path), ("cluster_profile", .text profile)] }

/-- What is logged about the manifests before the first one that cannot be read. -/
def manifestEntries (release profile : String) :
    List (String × Except Files.FileError ByteArray) → List Log.Entry
  | [] => []
  | (path, content) :: files =>
    match readManifest path content with
    | .ok fg => manifestEntry release profile path fg :: manifestEntries release profile files
    | .error _ => []

/-- What is logged while a catalog is loaded. -/
def loadEntries (directory : String) (v : Files.View) (release profile : String) : List Log.Entry :=
  let files := (manifestFiles directory v).toOption.getD []
  manifestEntries release profile files ++
    match load directory v release profile with
    | .ok c => [{
        level := .info, target := loadTarget, message := "Loaded feature set catalog", fields := [
          ("feature_sets", .int c.size), ("known_features", .int c.knownNames.length),
          ("operator_version", .text release), ("cluster_profile", .text profile)] }]
    | .error _ => []

end Catalog

end GateOperator
