import GateOperator.Schema.Basic

/-!
The schemas of the cluster's objects and of what they are made of. Fields stand in ascending order.
-/

namespace GateOperator.Schema

/-- A text of several lines. -/
def lines (parts : List String) : String := "\n".intercalate parts

/-- A text that must be given. -/
def described (description : String) : Schema := text { description }

/-- A text that may be missing or null. -/
def optional (description : String) : Schema := text { description, nullable := true }

/-- A list that is empty when it is missing. -/
def listing (description : String) (items : Schema) : Schema := list { description, default := some (.list []) } items

def condition : Schema :=
  record
    { description := lines [
        "Condition represents an observation of a resource's current state.",
        "",
        "Conditions are used in status subresources to communicate the state of",
        "a resource to users and controllers."] }
    [("lastTransitionTime", optional
        "Last time the condition transitioned from one status to another (RFC3339 format)."),
      ("message", optional "Human-readable message indicating details about the transition."),
      ("reason", optional "Brief CamelCase reason for the condition's last transition."),
      ("status", described "Status of the condition: True, False, or Unknown."),
      ("type", described
        "Type of condition. Common types include: Available, Progressing, Degraded, Upgradeable.")]
    ["status", "type"]

/-- A requirement of a gate. -/
def requirement : Schema :=
  record { description := "Lowest version of a named component required before a feature gate may be enabled." }
    [("component", described "Component identifier (e.g., \"Kubelet\")."),
      ("version", described "Semantic version the component must be at or above (e.g., \"1.30.0\").")]
    ["component", "version"]

/-- A feature gate. -/
def gate : Schema :=
  record { description := "A single resolved feature gate with the component versions it depends on." }
    [("name", described "Case-sensitive feature gate name."),
      ("requiredMinimumComponentVersions", list
        { description := "Minimum component versions that must all be satisfied for the gate to be enabled." }
        requirement)]
    ["name"]

/-- A snapshot of the gates of one release. -/
def snapshot : Schema :=
  record { description := "The resolved enabled/disabled partition of every known gate for one release version." }
    [("disabled", listing "Disabled gates, sorted by name." gate),
      ("enabled", listing "Enabled gates, sorted by name." gate),
      ("version", described "Release version this snapshot was resolved for.")]
    ["version"]

/-- A custom selection of gates. -/
def customSelection : Schema :=
  record
    { description := "Custom gate selection, only used with the `CustomNoUpgrade` feature set.", nullable := true }
    [("disabled", listing "Gates forced off." (text {})), ("enabled", listing "Gates forced on." (text {}))]
    []

def featureGateSpec : Schema :=
  record
    { description := lines [
        "`FeatureGate` selects which optional capabilities are switched on cluster-wide.",
        "",
        "`spec.featureSet` names a feature set; the status holds the complete, resolved list of",
        "enabled and disabled gates for the current release and for every earlier release",
        "the cluster still remembers.",
        "",
        "# Example",
        "",
        "```yaml",
        "apiVersion: config.openshift.io/v1",
        "kind: FeatureGate",
        "metadata:",
        "  name: cluster",
        "spec:",
        "  featureSet: TechPreviewNoUpgrade",
        "status:",
        "  featureGates:",
        "    - version: 4.16.0",
        "      enabled:",
        "        - name: NodeSwap",
        "      disabled:",
        "        - name: EventedPLEG",
        "```"] }
    [("customNoUpgrade", customSelection),
      ("featureSet", text
        { description := "Feature set name. Empty means `Default`.", default := some (.text "") })]
    []

def featureGateStatus : Schema :=
  record { description := "`FeatureGate` status", nullable := true }
    [("conditions", list {} condition),
      ("featureGates", listing "One resolved snapshot per retained release version, current release first."
        snapshot)]
    []

/-- A release that the cluster has been at. -/
def updateRecord : Schema :=
  record { description := "A release the cluster has been at, as recorded by the upgrade history." }
    [("image", optional "Release image pull spec."),
      ("state", optional "Whether the update to this version completed or is partial."),
      ("version", described "Release version.")]
    ["version"]

def clusterVersionSpec : Schema :=
  record { description := "`ClusterVersion` describes the release the cluster runs and its upgrade history." }
    [("clusterID", optional "Unique cluster identifier.")]
    []

def clusterVersionStatus : Schema :=
  record { description := "`ClusterVersion` status", nullable := true }
    [("history", listing "Upgrade history, most recent first." updateRecord)]
    []

def nodeConfigSpec : Schema :=
  record { description := "Cluster-wide node configuration." }
    [("minimumKubeletVersion", described
      "Lowest kubelet version allowed to join the cluster. Empty when unset.")]
    []

def infrastructureSpec : Schema :=
  record { description := "`Infrastructure` describes the cluster's underlying platform." } [] []

def infrastructureStatus : Schema :=
  record { description := "`Infrastructure` status", nullable := true }
    [("controlPlaneTopology", optional
      "Where the control plane runs: `HighlyAvailable`, `SingleReplica` or `External`.")]
    []

/-- A version reported under a name. -/
def operandVersion : Schema :=
  record { description := "A named version reported by an operator." }
    [("name", described "Operand name (e.g., \"operator\", \"feature-gates\")."),
      ("version", described "Version the operand has achieved.")]
    ["name", "version"]

def clusterOperatorSpec : Schema :=
  record { description := "`ClusterOperator` is how an operator reports its health and level to the cluster." }
    [] []

def clusterOperatorStatus : Schema :=
  record { description := "`ClusterOperator` status", nullable := true }
    [("conditions", list { default := some (.list []) } condition),
      ("versions", listing "Versions this operator has achieved, sorted by name." operandVersion)]
    []

end GateOperator.Schema
