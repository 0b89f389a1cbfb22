import GateOperator.Proofs.History.Merge
import GateOperator.Proofs.Pass.FeatureGates
import GateOperator.Render

/-!
One object, rendered for an installation and then looked after by the operator of the same release. Main
statement: as long as no component versions are observed, the pass finds in place what rendering has recorded;
an object that cannot be rendered stays as it was, and the pass over it fails for the same reason.
-/

namespace GateOperator

/-- The object is in the cluster, beside a cluster version, and nothing is said of component versions. -/
structure Cluster.Installed (c : Cluster) (fg : FeatureGate) : Prop where
  featureGate : c.featureGate = some fg
  clusterVersion : ∃ cv, c.clusterVersion = some cv
  nodeConfig : ∀ node, c.nodeConfig = some node → node.spec.minimumKubeletVersion = ""

theorem Observations.ofNode_eq_empty {node : Option NodeConfig}
    (h : ∀ n, node = some n → n.spec.minimumKubeletVersion = "") : Observations.ofNode node = .empty := by
  cases node with
  | none => rfl
  | some n => exact if_pos (h n rfl)

namespace FeatureGate

/-- The object as rendering leaves it. -/
def afterRender (fg : FeatureGate) (c : Catalog) (version : String) : FeatureGate :=
  (fg.render c version).toOption.getD fg

section
variable {fg rendered : FeatureGate} {c : Catalog} {version : String} {e : ResolveError}

/-- Rendering records what the specification resolves to with nothing observed, and changes nothing else. -/
theorem render_eq_ok_iff : fg.render c version = .ok rendered ↔
    ∃ s, fg.spec.snapshot c version .empty = .ok s ∧ rendered = fg.withStatus ⟨[s], conditions fg⟩ := by
  rw [render, Except.map_eq_ok_iff]
  exact exists_congr fun s => and_congr_right fun _ => eq_comm

theorem render_eq_error_iff : fg.render c version = .error e ↔ fg.spec.snapshot c version .empty = .error e :=
  Except.map_eq_error_iff

theorem afterRender_of_ok (h : fg.render c version = .ok rendered) : fg.afterRender c version = rendered := by
  rw [afterRender, h]
  rfl

theorem afterRender_of_error (h : fg.render c version = .error e) : fg.afterRender c version = fg := by
  rw [afterRender, h]
  rfl

end

end FeatureGate

namespace FeatureGatePass

section
variable {o : Operator} {f : Faults} {w : World} {c : Cluster} {fg : FeatureGate}

/-- A look that can read everything finds everything. -/
theorem look_of_installed (readable : f.Readable) (installed : c.Installed fg) :
    ∃ r, look c f = .ok (.complete r) ∧ r.featureGate = fg ∧ Observations.ofNode r.nodeConfig = .empty := by
  obtain ⟨cv, hcv⟩ := installed.clusterVersion
  exact ⟨⟨fg, cv, c.nodeConfig⟩, look_of_readable readable installed.featureGate hcv, rfl,
    Observations.ofNode_eq_empty installed.nodeConfig⟩

/-- A pass over an object that rendering leaves. If it was rendered everything is in place, and the release counts
    as achieved; if it could not be, it is the object that it was, and the pass fails with the same error. -/
theorem run_afterRender (readable : f.Readable)
    (installed : w.cluster.Installed (fg.afterRender o.catalog o.version)) :
    (∀ rendered, fg.render o.catalog o.version = .ok rendered →
      w.cluster.featureGate = some rendered ∧ ∃ current, FeatureGate.snapshots rendered = [current] ∧
        run o f w = (.ok (.unchanged current),
          { w with status := w.status.setVersion OperatorStatus.featureGates o.version }) ∧
        (run o f w).2.status.version? OperatorStatus.featureGates = some o.version) ∧
    ∀ e, fg.render o.catalog o.version = .error e →
      w.cluster.featureGate = some fg ∧ run o f w = (.error (.resolve e), w) := by
  obtain ⟨r, read, hgate, unobserved⟩ := look_of_installed readable installed
  constructor
  · intro rendered h
    have left : fg.afterRender o.catalog o.version = rendered := FeatureGate.afterRender_of_ok h
    obtain ⟨s, resolved, hrendered⟩ := FeatureGate.render_eq_ok_iff.mp h
    rw [left] at installed hgate
    -- Rendering has not touched the specification, so it resolves to the same snapshot again.
    have plan : r.plan o = .ok ⟨s, [s]⟩ := by
      rw [Reading.plan_eq_ok_iff, hgate, unobserved, hrendered]
      refine ⟨resolved, ?_⟩
      exact (@History.merge_merge s [] _).symm
    have recorded : FeatureGate.snapshots rendered = [s] := by
      rw [hrendered]
      rfl
    have hrun : run o f w = (.ok (.unchanged s), w.achieve o.version) := by
      rw [run, read]
      dsimp only
      rw [plan]
      dsimp only
      rw [commit, if_pos (by rw [hgate, recorded])]
    refine ⟨installed.featureGate, s, recorded, hrun, ?_⟩
    rw [hrun]
    exact World.version?_achieve w o.version
  · intro e h
    have left : fg.afterRender o.catalog o.version = fg := FeatureGate.afterRender_of_error h
    rw [left] at installed hgate
    have plan : r.plan o = .error e := by
      rw [Reading.plan, hgate, unobserved, FeatureGate.render_eq_error_iff.mp h]
      rfl
    refine ⟨installed.featureGate, ?_⟩
    rw [run, read]
    dsimp only
    rw [plan]

/-- The operator of a payload; one of its gates needs a new enough kubelet. -/
def payloadOperator : Operator :=
  ⟨⟨.ofList [("Default", ⟨[⟨"A", [⟨"Kubelet", "1.31.0"⟩]⟩, ⟨"B", []⟩], [⟨"C", []⟩]⟩)]⟩, "4.18.0"⟩

/-- A manifest in which an earlier payload and a condition are recorded. -/
def reused (featureSet : String) : FeatureGate :=
  ⟨{ name := some "cluster" }, ⟨featureSet, none⟩,
    some ⟨[⟨"4.17.0", [⟨"A", []⟩], []⟩], [⟨"Valid", "True", none, none, none⟩]⟩⟩

/-- A cluster that is installed with the manifest, and does not say which kubelets it has. -/
def installation (featureSet : String) : World where
  cluster := {
    featureGate := some ((reused featureSet).afterRender payloadOperator.catalog payloadOperator.version)
    clusterVersion := some ⟨{ name := some "version" }, ⟨none⟩,
      some ⟨[⟨"4.18.0", none, none⟩, ⟨"4.17.0", none, none⟩]⟩⟩
    nodeConfig := some ⟨{ name := some "cluster" }, ⟨""⟩, none⟩ }

theorem installed_installation (featureSet : String) : (installation featureSet).cluster.Installed
    ((reused featureSet).afterRender payloadOperator.catalog payloadOperator.version) where
  featureGate := rfl
  clusterVersion := ⟨_, rfl⟩
  nodeConfig := by
    rintro node ⟨⟩
    rfl

/-- The server takes no writes; the manifest of a feature set that is known needs none, and the other one gets
    none. -/
theorem run_afterRender_unwritable :
    let unwritable : Faults := { featureGateStatus := some "conflict" }
    let current : Snapshot := ⟨"4.18.0", [⟨"B", []⟩], [⟨"A", [⟨"Kubelet", "1.31.0"⟩]⟩, ⟨"C", []⟩]⟩
    unwritable.Readable ∧
      ((installation "").cluster.Installed
          ((reused "").afterRender payloadOperator.catalog payloadOperator.version) ∧
        (reused "").render payloadOperator.catalog payloadOperator.version =
          .ok ((reused "").withStatus ⟨[current], FeatureGate.conditions (reused "")⟩) ∧
        (run payloadOperator unwritable (installation "")).1 = .ok (.unchanged current) ∧
        (run payloadOperator unwritable (installation "")).2.status.version? OperatorStatus.featureGates =
          some "4.18.0") ∧
      ((installation "X").cluster.Installed
          ((reused "X").afterRender payloadOperator.catalog payloadOperator.version) ∧
        (reused "X").render payloadOperator.catalog payloadOperator.version = .error (.featureSetNotFound "X") ∧
        run payloadOperator unwritable (installation "X") =
          (.error (.resolve (.featureSetNotFound "X")), installation "X")) := by
  intro unwritable current
  have readable : unwritable.Readable := ⟨rfl, rfl, rfl⟩
  have rendered : (reused "").render payloadOperator.catalog payloadOperator.version =
      .ok ((reused "").withStatus ⟨[current], FeatureGate.conditions (reused "")⟩) := rfl
  have unknown : (reused "X").render payloadOperator.catalog payloadOperator.version =
      .error (.featureSetNotFound "X") := rfl
  obtain ⟨hok, -⟩ := run_afterRender readable (installed_installation "")
  obtain ⟨-, herror⟩ := run_afterRender readable (installed_installation "X")
  obtain ⟨-, s, hs, hrun, hversion⟩ := hok _ rendered
  cases hs
  exact ⟨readable, ⟨installed_installation "", rendered, congrArg Prod.fst hrun, hversion⟩,
    installed_installation "X", unknown, (herror _ unknown).2⟩

end

end FeatureGatePass

end GateOperator
