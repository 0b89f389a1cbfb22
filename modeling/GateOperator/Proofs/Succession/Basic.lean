import GateOperator.Proofs.Pass.FeatureGates

/-!
Operators in succession: passes over the recorded gates by operators of any releases and catalogs, in any
order and with any failures. Between the passes everything may change but the recorded snapshots.
-/

namespace GateOperator

namespace Succession

open FeatureGatePass

/-- The turn of an operator to make a pass. -/
structure Turn where
  operator : Operator
  faults : Faults
  /-- What has happened since the turn before: to the operator, which may have been started anew, and to the
      cluster. -/
  change : World → World
  keeps : ∀ w, (change w).cluster.snapshots = w.cluster.snapshots

namespace Turn

/-- The pass of the turn. -/
def pass (t : Turn) (w : World) : Pass Sync := FeatureGatePass.run t.operator t.faults (t.change w)

/-- The releases that the cluster remembers at the pass. -/
def known (t : Turn) (w : World) : List String :=
  History.knownVersions t.operator.version (((t.change w).cluster.clusterVersion.map ClusterVersion.history).getD [])

/-- The stored object resolves to the snapshot, with the observations that the pass makes. -/
def Resolves (t : Turn) (w : World) (s : Snapshot) : Prop :=
  ∃ fg node, (t.change w).cluster.featureGate = some fg ∧ (t.change w).cluster.readNodeConfig t.faults = .ok node ∧
    fg.spec.snapshot t.operator.catalog t.operator.version (Observations.ofNode node) = .ok s

/-- The pass, if it goes well, is one of another release, and the cluster remembers the given one. -/
def Spares (t : Turn) (w : World) (version : String) : Prop :=
  ∀ current, Succeeds (t.pass w) current → version ≠ t.operator.version ∧ version ∈ t.known w

end Turn

/-- The world after turns one after another. -/
def run (w : World) (turns : List Turn) : World := turns.foldl (fun w t => (t.pass w).2) w

section
variable {w : World} {turns : List Turn} {t : Turn} {current s : Snapshot}

@[simp] theorem run_nil : run w [] = w := rfl

@[simp] theorem run_concat : run w (turns ++ [t]) = (t.pass (run w turns)).2 := by
  simp [run]

theorem Turn.Resolves.version (h : t.Resolves w s) : s.version = t.operator.version := by
  obtain ⟨fg, node, -, -, h⟩ := h
  exact FeatureGateSpec.version_of_snapshot h

/-- A pass that goes well merges what it resolves into the recorded snapshots; any other leaves them. -/
theorem Turn.snapshots_pass (t : Turn) (w : World) :
    (∃ current, Succeeds (t.pass w) current ∧ t.Resolves w current ∧
        (t.pass w).2.cluster.snapshots = History.merge current w.cluster.snapshots (t.known w)) ∨
      (∀ current, ¬Succeeds (t.pass w) current) ∧ (t.pass w).2.cluster.snapshots = w.cluster.snapshots := by
  by_cases h : ∃ current, Succeeds (t.pass w) current
  · left
    obtain ⟨current, succeeds⟩ := h
    obtain ⟨fg, stored, ⟨node, hnode, resolved⟩, cv, hcv, merged⟩ := desired_of_succeeds succeeds
    have hprevious : FeatureGate.snapshots fg = w.cluster.snapshots := by
      rw [← t.keeps, Cluster.snapshots, stored]
      rfl
    refine ⟨current, succeeds, ⟨fg, node, stored, hnode, resolved⟩, ?_⟩
    rw [Turn.known, hcv, ← hprevious]
    exact merged
  · right
    have fails := fun current succeeds => h ⟨current, succeeds⟩
    refine ⟨fails, ?_⟩
    rw [Turn.pass, world_of_not_succeeds fails, t.keeps]

/-- The pass gives one snapshot, whichever way it goes well. -/
theorem Turn.succeeds_unique (h : Succeeds (t.pass w) current) (h' : Succeeds (t.pass w) s) : current = s := by
  rcases h with h | h <;> rcases h' with h' | h' <;> cases h.symm.trans h' <;> rfl

end

end Succession

end GateOperator
