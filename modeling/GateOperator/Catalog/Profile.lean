import GateOperator.Object.Metadata

/-!
Cluster profiles. A manifest says with annotations for which profiles it is meant; one without such
annotations is meant for all.
-/

namespace GateOperator

namespace Profile

/-- The profile of clusters that run their own control plane. -/
def selfManaged : String := "self-managed-high-availability"

/-- The profile of clusters whose control plane runs elsewhere. -/
def external : String := "ibm-cloud-managed"

/-- The profile for a topology of the control plane. -/
def ofTopology (topology : Option String) : String := if topology = some "External" then external else selfManaged

/-- What the names of the annotations about profiles begin with. -/
def annotationStart : String := "include.release.openshift.io/"

/-- The value of an annotation that includes a manifest. -/
def included : String := "false-except-for-the-config-operator"

/-- The manifest with this metadata is meant for the profile. -/
def applies (profile : String) (m : Metadata) : Bool :=
  match m.annotations with
  | none => true
  | some annotations =>
    !(annotations.names.any fun name => name.startsWith annotationStart) ||
      annotations.find? (annotationStart ++ profile) = some included

end Profile

end GateOperator
