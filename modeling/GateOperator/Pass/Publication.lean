import GateOperator.Pass.Basic

/-!
Publishing the status of the operator: it is built and compared with what the cluster operator object
reports, and written when they differ. What was built is remembered even when the write fails, so that the
next attempt writes the same.
-/

namespace GateOperator

namespace Publication

/-- Publishes the status; tells whether there was anything to write. A cluster operator object that is not
    there is left alone. -/
def run (f : Faults) (clock : Nat → String) (w : World) : Pass Bool :=
  match w.cluster.readClusterOperator f with
  | .error text => (.error (.cluster text), w)
  | .ok none => (.ok false, w)
  | .ok (some co) =>
    let (built, status) := w.status.build clock
    let w := { w with status }
    if OperatorStatus.isReported (co.status.getD .empty) built then (.ok false, w)
    else
      match w.write f (.clusterOperatorStatus built) with
      | .error e => (.error e, w)
      | .ok w => (.ok true, w.countWrite ClusterOperator.kind.name)

end Publication

end GateOperator
