import GateOperator.Object.ClusterVersion
import GateOperator.Object.Gate

/-!
The recorded snapshots of a cluster: that of the running release first, then those of earlier releases
that the cluster still remembers, unchanged and in the order in which they stood.
-/

namespace GateOperator

namespace History

/-- The releases that the cluster remembers: the running one and those of the upgrade history. -/
def knownVersions (running : String) (history : List UpdateRecord) : List String :=
  Names.ofList (running :: history.map (·.version))

/-- An earlier snapshot stays when its release is remembered and is not the running one. -/
def stays (running : String) (known : List String) (s : Snapshot) : Bool :=
  s.version ≠ running && known.contains s.version

/-- The snapshots to record, out of the current one and those recorded before. -/
def merge (current : Snapshot) (previous : List Snapshot) (known : List String) : List Snapshot :=
  current :: previous.filter (stays current.version known)

end History

end GateOperator
