import GateOperator.Pass.Migration

/-!
The exits of the pass that retires a feature set, with the world that each leaves. No exit touches what the
operator remembers of itself.
-/

namespace GateOperator.MigrationPass

/-- The world after the cluster has been moved to the default feature set. -/
def moved (w : World) (fg : FeatureGate) : World :=
  { w with cluster := w.cluster.apply write, writes := w.writes ++ [write] }.publish
    (.ofReplacement fg retired defaultFeatureSet)

/-- How a pass ends, and the world that it leaves. -/
inductive Exit (f : Faults) (w : World) : Pass Migration → Prop where
  | unreadable {text : String} (h : w.cluster.readFeatureGate f = .error text) :
      Exit f w (.error (.cluster text), w)
  | featureGateMissing (h : w.cluster.readFeatureGate f = .ok none) : Exit f w (.ok .featureGateMissing, w)
  | notNeeded {fg : FeatureGate} (read : w.cluster.readFeatureGate f = .ok (some fg))
      (h : fg.spec.featureSet ≠ retired) : Exit f w (.ok .notNeeded, w)
  | refused {fg : FeatureGate} {text : String} (read : w.cluster.readFeatureGate f = .ok (some fg))
      (selected : fg.spec.featureSet = retired) (h : f.featureSet = some text) :
      Exit f w (.error (.cluster text), w)
  | migrated {fg : FeatureGate} (read : w.cluster.readFeatureGate f = .ok (some fg))
      (selected : fg.spec.featureSet = retired) (h : f.featureSet = none) : Exit f w (.ok .migrated, moved w fg)

/-- A pass ends in one of the listed ways. -/
theorem run_exit (f : Faults) (w : World) : Exit f w (run f w) := by
  unfold run
  split
  · rename_i h
    exact .unreadable h
  · rename_i h
    exact .featureGateMissing h
  · rename_i fg read
    split
    · rename_i selected
      rcases w.write_cases f write with ⟨h, hw⟩ | ⟨text, h, hw⟩
      · rw [hw]
        exact .migrated read selected h
      · rw [hw]
        exact .refused read selected h
    · rename_i h
      exact .notNeeded read h

end GateOperator.MigrationPass
