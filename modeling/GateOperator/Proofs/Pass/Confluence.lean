import GateOperator.Controller.Basic
import GateOperator.Proofs.Pass.Migration
import GateOperator.Proofs.Pass.Repetition

/-!
Passes of both controllers in any order, with any failures. Whatever a pass has recorded for the running release
is replaced by the next one that goes well, and what it has kept of other releases is kept again. Main statement:
once a feature set has been retired and the gates have been recorded after that, the cluster is as if each had
been done once, without failures; and the feature set is written once at most.
-/

namespace GateOperator

/-- The write changes the selected feature set. -/
def Write.setsFeatureSet : Write → Bool
  | featureSet _ _ => true
  | featureGateStatus _ _ | clusterOperatorStatus _ => false

/-- The object once a feature set that is retired has been replaced. -/
def FeatureGate.migrated (fg : FeatureGate) : FeatureGate :=
  if fg.spec.featureSet = MigrationPass.retired then FeatureGate.withFeatureSet fg defaultFeatureSet else fg

theorem FeatureGate.featureSet_migrated_ne {fg : FeatureGate} :
    (FeatureGate.migrated fg).spec.featureSet ≠ MigrationPass.retired := by
  unfold migrated
  split
  · show defaultFeatureSet ≠ MigrationPass.retired
    decide
  · assumption

namespace Alternation

open FeatureGatePass

/-- A controller makes a pass. -/
structure Turn where
  controller : Controller
  faults : Faults

/-- The world after a turn. -/
def Turn.perform (o : Operator) (w : World) (t : Turn) : World :=
  match t.controller with
  | .featureGates => (FeatureGatePass.run o t.faults w).2
  | .migration => (MigrationPass.run t.faults w).2

/-- The world after turns one after another. -/
def run (o : Operator) (w : World) (turns : List Turn) : World := turns.foldl (Turn.perform o) w

/-- The releases that the cluster remembers. -/
def known (o : Operator) (c : Cluster) : List String :=
  History.knownVersions o.version ((c.clusterVersion.map ClusterVersion.history).getD [])

/-- What has become of the feature set that was selected, and what has been written for that. -/
inductive Moved (fg₀ fg : FeatureGate) (accepted : List Write) : Prop where
  | kept (spec : fg.spec = fg₀.spec) (unset : accepted.countP Write.setsFeatureSet = 0)
  | replaced (retired : fg₀.spec.featureSet = MigrationPass.retired)
      (spec : fg.spec = (FeatureGate.migrated fg₀).spec) (once : accepted.countP Write.setsFeatureSet = 1)

/-- What turns leave of the world and the object with which they began. Any snapshot of the running release is
    merged with what is recorded now as it would have been at the beginning. -/
structure Continues (o : Operator) (w₀ : World) (fg₀ : FeatureGate) (w : World) (fg : FeatureGate) : Prop where
  cluster : w.cluster = { w₀.cluster with featureGate := some fg }
  metadata : fg.metadata = fg₀.metadata
  conditions : FeatureGate.conditions fg = FeatureGate.conditions fg₀
  merge : ∀ current : Snapshot, current.version = o.version →
    History.merge current (FeatureGate.snapshots fg) (known o w₀.cluster) =
      History.merge current (FeatureGate.snapshots fg₀) (known o w₀.cluster)
  moved : ∃ accepted, w.writes = w₀.writes ++ accepted ∧ Moved fg₀ fg accepted

/-- The object is as both controllers are to leave it in a cluster that can tell its releases. -/
def Complete (o : Operator) (c : Cluster) (fg₀ fg : FeatureGate) : Prop :=
  (∃ cv, c.clusterVersion = some cv) ∧ ∃ current,
    (FeatureGate.migrated fg₀).spec.snapshot o.catalog o.version (Observations.ofNode c.nodeConfig) = .ok current ∧
    fg = ⟨fg₀.metadata, (FeatureGate.migrated fg₀).spec, some ⟨History.merge current (FeatureGate.snapshots fg₀)
      (known o c), FeatureGate.conditions fg₀⟩⟩

section
variable {o : Operator} {w w₀ : World} {fg fg' fg₀ : FeatureGate} {c : Cluster} {cv : ClusterVersion} {f : Faults}
  {t : Turn} {turns more : List Turn} {current : Snapshot}

@[simp] theorem run_nil : run o w [] = w := rfl

@[simp] theorem run_cons : run o w (t :: turns) = run o (t.perform o w) turns := rfl

@[simp] theorem run_append : run o w (turns ++ more) = run o (run o w turns) more := by
  simp [run]

theorem known_eq (h : c.clusterVersion = some cv) :
    known o c = History.knownVersions o.version (ClusterVersion.history cv) := by
  rw [known, h]
  rfl

theorem Complete.unique (h : Complete o c fg₀ fg) (h' : Complete o c fg₀ fg') : fg = fg' := by
  obtain ⟨-, current, resolved, rfl⟩ := h
  obtain ⟨-, current', resolved', rfl⟩ := h'
  cases resolved.symm.trans resolved'
  rfl

theorem Moved.migrated (h : ∃ accepted, Moved fg₀ fg accepted) (done : fg.spec.featureSet ≠ MigrationPass.retired) :
    fg.spec = (FeatureGate.migrated fg₀).spec := by
  obtain ⟨accepted, ⟨spec, -⟩ | ⟨-, spec, -⟩⟩ := h
  · rw [spec] at done ⊢
    rw [FeatureGate.migrated, if_neg done]
  · exact spec

theorem continues_refl (stored : w.cluster.featureGate = some fg) : Continues o w fg w fg where
  cluster := by rw [← stored]
  metadata := rfl
  conditions := rfl
  merge _ _ := rfl
  moved := ⟨[], by simp, .kept rfl rfl⟩

theorem Continues.stored (h : Continues o w₀ fg₀ w fg) : w.cluster.featureGate = some fg := by
  rw [h.cluster]

/-! ### One turn -/

theorem writes_featureGates : ∃ accepted, (FeatureGatePass.run o f w).2.writes = w.writes ++ accepted ∧
    accepted.countP Write.setsFeatureSet = 0 := by
  have exit := FeatureGatePass.run_exit o f w
  generalize FeatureGatePass.run o f w = result at exit ⊢
  cases exit with
  | unreadable | featureGateMissing | clusterVersionMissing | unresolved | refused | unchanged =>
    exact ⟨[], by simp [World.achieve], rfl⟩
  | @updated r p => exact ⟨[r.write p], rfl, rfl⟩

/-- A pass over the recorded gates keeps the specification; after the feature set has been replaced it completes
    the object, if it goes well, and leaves it complete if it was. -/
theorem Continues.featureGates (h : Continues o w₀ fg₀ w fg) (truthful : f.Truthful) :
    ∃ fg', Continues o w₀ fg₀ (FeatureGatePass.run o f w).2 fg' ∧ fg'.spec = fg.spec ∧
      (fg.spec = (FeatureGate.migrated fg₀).spec →
        (∃ current, Succeeds (FeatureGatePass.run o f w) current) ∨ Complete o w₀.cluster fg₀ fg →
        Complete o w₀.cluster fg₀ fg') := by
  by_cases succeeds : ∃ current, Succeeds (FeatureGatePass.run o f w) current
  · obtain ⟨current, succeeds⟩ := succeeds
    obtain ⟨fg', snapshots, desired, left⟩ := cluster_of_succeeds succeeds
    obtain ⟨more, hmore, unset⟩ := @writes_featureGates o w f
    obtain ⟨stored, ⟨node, hnode, resolved⟩, cv, hcv, merged⟩ := desired.of_truthful truthful
    cases h.stored.symm.trans stored
    have version : current.version = o.version := FeatureGateSpec.version_of_snapshot resolved
    have hcv₀ : w₀.cluster.clusterVersion = some cv := by
      rw [← hcv, h.cluster]
    have hnode₀ : node = w₀.cluster.nodeConfig := by
      rw [h.cluster] at hnode
      exact (Except.ok.inj hnode).symm
    rw [← known_eq hcv₀, h.merge current version] at merged
    refine ⟨fg.withStatus ⟨snapshots, FeatureGate.conditions fg⟩, ⟨left.trans (by rw [h.cluster]), h.metadata,
      h.conditions, fun other hother => ?_, ?_⟩, rfl, ?_⟩
    · show History.merge other snapshots _ = _
      rw [merged, History.merge_merge_of_version (hother.trans version.symm)]
    · obtain ⟨accepted, hwrites, moved⟩ := h.moved
      refine ⟨accepted ++ more, by rw [hmore, hwrites, List.append_assoc], ?_⟩
      cases moved with
      | kept spec none => exact .kept spec (by rw [List.countP_append, none, unset])
      | replaced retired spec once => exact .replaced retired spec (by rw [List.countP_append, once, unset])
    · intro hspec _
      refine ⟨⟨cv, hcv₀⟩, current, ?_, ?_⟩
      · rw [← hspec, ← hnode₀]
        exact resolved
      · rw [← hspec, ← h.metadata, ← h.conditions, ← merged]
        rfl
  · have hworld := world_of_not_succeeds fun current h => succeeds ⟨current, h⟩
    rw [hworld]
    exact ⟨fg, h, rfl, fun _ complete => complete.resolve_left succeeds⟩

/-- The other pass replaces the feature set if it goes well, and then has nothing more to do. -/
theorem Continues.migration (h : Continues o w₀ fg₀ w fg) (truthful : f.Truthful) :
    ∃ fg', Continues o w₀ fg₀ (MigrationPass.run f w).2 fg' ∧
      (∀ done, (MigrationPass.run f w).1 = .ok done → fg'.spec = (FeatureGate.migrated fg₀).spec) ∧
      (fg.spec = (FeatureGate.migrated fg₀).spec → fg' = fg) := by
  have exit := MigrationPass.run_exit f w
  generalize MigrationPass.run f w = result at exit ⊢
  have found {d : Option FeatureGate} (read : w.cluster.readFeatureGate f = .ok d) : d = some fg :=
    (ReadFault.eq_of_read truthful.featureGate read).trans h.stored
  cases exit with
  | unreadable | refused => exact ⟨fg, h, nofun, fun _ => rfl⟩
  | featureGateMissing read => cases found read
  | notNeeded read done =>
    cases found read
    obtain ⟨accepted, -, moved⟩ := h.moved
    exact ⟨fg, h, fun _ _ => Moved.migrated ⟨accepted, moved⟩ done, fun _ => rfl⟩
  | migrated read selected =>
    cases found read
    obtain ⟨accepted, hwrites, moved⟩ := h.moved
    cases moved with
    | replaced _ spec => exact absurd (spec ▸ selected) FeatureGate.featureSet_migrated_ne
    | kept spec unset =>
      have retired : fg₀.spec.featureSet = MigrationPass.retired := spec ▸ selected
      have replaced : (FeatureGate.withFeatureSet fg defaultFeatureSet).spec = (FeatureGate.migrated fg₀).spec := by
        rw [FeatureGate.migrated, if_pos retired, FeatureGate.withFeatureSet, FeatureGate.withFeatureSet, spec]
      refine ⟨FeatureGate.withFeatureSet fg defaultFeatureSet, ⟨?_, h.metadata, h.conditions, h.merge, ?_⟩,
        fun _ _ => replaced, fun hspec => ?_⟩
      · show w.cluster.apply MigrationPass.write = _
        rw [h.cluster]
        rfl
      · refine ⟨accepted ++ [MigrationPass.write], ?_, .replaced retired replaced ?_⟩
        · show w.writes ++ [MigrationPass.write] = _
          rw [hwrites, List.append_assoc]
        · rw [List.countP_append, unset]
          rfl
      · exact absurd (hspec ▸ selected) FeatureGate.featureSet_migrated_ne

theorem Continues.turn (h : Continues o w₀ fg₀ w fg) (truthful : t.faults.Truthful) :
    ∃ fg', Continues o w₀ fg₀ (t.perform o w) fg' ∧ (fg.spec = (FeatureGate.migrated fg₀).spec →
      fg'.spec = (FeatureGate.migrated fg₀).spec ∧ (Complete o w₀.cluster fg₀ fg → Complete o w₀.cluster fg₀ fg')) := by
  obtain ⟨controller, f⟩ := t
  cases controller with
  | featureGates =>
    obtain ⟨fg', h', hspec, hcomplete⟩ := h.featureGates truthful
    exact ⟨fg', h', fun moved => ⟨hspec.trans moved, fun complete => hcomplete moved (.inr complete)⟩⟩
  | migration =>
    obtain ⟨fg', h', -, hsame⟩ := h.migration truthful
    refine ⟨fg', h', fun moved => ?_⟩
    rw [hsame moved]
    exact ⟨moved, id⟩

/-! ### Turns one after another -/

theorem Continues.run (h : Continues o w₀ fg₀ w fg) (truthful : ∀ t ∈ turns, t.faults.Truthful) :
    ∃ fg', Continues o w₀ fg₀ (Alternation.run o w turns) fg' ∧ (fg.spec = (FeatureGate.migrated fg₀).spec →
      fg'.spec = (FeatureGate.migrated fg₀).spec ∧ (Complete o w₀.cluster fg₀ fg → Complete o w₀.cluster fg₀ fg')) := by
  induction turns generalizing w fg with
  | nil => exact ⟨fg, h, fun moved => ⟨moved, id⟩⟩
  | cons t turns ih =>
    obtain ⟨next, hnext, htail⟩ := h.turn (truthful t (by simp))
    obtain ⟨fg', h', hrest⟩ := ih hnext fun u hu => truthful u (by simp [hu])
    refine ⟨fg', h', fun moved => ?_⟩
    obtain ⟨hmoved, hcomplete⟩ := htail moved
    obtain ⟨hmoved', hcomplete'⟩ := hrest hmoved
    exact ⟨hmoved', hcomplete' ∘ hcomplete⟩

/-- Once the feature set has been replaced and the gates have been recorded after that, the object is complete,
    and stays so. -/
theorem complete_of_both {before between after : List Turn} {f g : Faults} {done : MigrationPass.Migration}
    (stored : w.cluster.featureGate = some fg)
    (truthful : ∀ t ∈ before ++ ⟨.migration, f⟩ :: (between ++ ⟨.featureGates, g⟩ :: after), t.faults.Truthful)
    (migrated : (MigrationPass.run f (run o w before)).1 = .ok done)
    (succeeds : Succeeds (FeatureGatePass.run o g (run o w (before ++ ⟨.migration, f⟩ :: between))) current) :
    ∃ fg', Complete o w.cluster fg fg' ∧
      (run o w (before ++ ⟨.migration, f⟩ :: (between ++ ⟨.featureGates, g⟩ :: after))).cluster =
        { w.cluster with featureGate := some fg' } := by
  rw [run_append, run_cons] at succeeds
  rw [run_append, run_cons, run_append, run_cons]
  rw [List.forall_mem_append, List.forall_mem_cons, List.forall_mem_append, List.forall_mem_cons] at truthful
  obtain ⟨hbefore, hmigration, hbetween, hgates, hafter⟩ := truthful
  obtain ⟨fg₁, h₁, -⟩ := (continues_refl stored).run (o := o) hbefore
  obtain ⟨fg₂, h₂, replaces, -⟩ := h₁.migration hmigration
  obtain ⟨fg₃, h₃, stays₃⟩ := h₂.run hbetween
  obtain ⟨replaced, -⟩ := stays₃ (replaces done migrated)
  obtain ⟨fg₄, h₄, hspec, completes⟩ := h₃.featureGates hgates
  obtain ⟨fg₅, h₅, stays₅⟩ := h₄.run hafter
  have complete : Complete o w.cluster fg fg₄ := completes replaced (.inl ⟨current, succeeds⟩)
  exact ⟨fg₅, (stays₅ (hspec.trans replaced)).2 complete, h₅.cluster⟩

/-- Without failures one turn of each controller is enough, if the gates can be resolved at all. -/
theorem complete_once (stored : w.cluster.featureGate = some fg) (complete : Complete o w.cluster fg fg') :
    (run o w [⟨.migration, .none⟩, ⟨.featureGates, .none⟩]).cluster = { w.cluster with featureGate := some fg' } := by
  obtain ⟨⟨cv, version⟩, current, resolved, -⟩ := id complete
  have truthful : Faults.none.Truthful := by decide
  obtain ⟨done, migrated⟩ : ∃ done, (MigrationPass.run .none w).1 = .ok done := by
    have exit := MigrationPass.run_exit .none w
    generalize MigrationPass.run .none w = result at exit ⊢
    cases exit with
    | unreadable h => cases h
    | featureGateMissing | notNeeded | migrated => exact ⟨_, rfl⟩
    | refused _ _ h => cases h
  have succeeds : Succeeds (FeatureGatePass.run o .none (MigrationPass.run .none w).2) current := by
    obtain ⟨next, hnext, replaces, -⟩ := (continues_refl stored).migration (o := o) truthful
    have version : (MigrationPass.run .none w).2.cluster.clusterVersion = some cv := by
      rw [hnext.cluster]
      exact version
    refine succeeds_of_resolved ⟨rfl, rfl, rfl⟩ rfl hnext.stored version ?_
    rw [replaces done migrated, hnext.cluster]
    exact resolved
  have once : ∃ fg', Complete o w.cluster fg fg' ∧
      (run o w ([] ++ ⟨.migration, .none⟩ :: ([] ++ [⟨.featureGates, .none⟩]))).cluster =
        { w.cluster with featureGate := some fg' } :=
    complete_of_both stored (by simp [truthful]) migrated succeeds
  obtain ⟨fg'', complete', hcluster⟩ := once
  rw [complete.unique complete']
  exact hcluster

/-- If some turn replaces the feature set or finds that it need not, and a later one records the gates, the cluster
    is as after one turn of each controller without failures. The feature set is written once at most, and only if
    it is the one that is retired. -/
theorem turns_confluent (stored : w.cluster.featureGate = some fg) (truthful : ∀ t ∈ turns, t.faults.Truthful) :
    (∀ before f between g after done current,
      turns = before ++ ⟨.migration, f⟩ :: (between ++ ⟨.featureGates, g⟩ :: after) →
      (MigrationPass.run f (run o w before)).1 = .ok done →
      Succeeds (FeatureGatePass.run o g (run o w (before ++ ⟨.migration, f⟩ :: between))) current →
      (run o w turns).cluster = (run o w [⟨.migration, .none⟩, ⟨.featureGates, .none⟩]).cluster) ∧
    ∃ accepted, (run o w turns).writes = w.writes ++ accepted ∧ accepted.countP Write.setsFeatureSet ≤ 1 ∧
      (fg.spec.featureSet ≠ MigrationPass.retired → accepted.countP Write.setsFeatureSet = 0) := by
  constructor
  · rintro before f between g after done current rfl migrated succeeds
    obtain ⟨fg', complete, hcluster⟩ := complete_of_both stored truthful migrated succeeds
    rw [hcluster, complete_once stored complete]
  · obtain ⟨fg', h, -⟩ := (continues_refl stored).run (o := o) truthful
    obtain ⟨accepted, hwrites, moved⟩ := h.moved
    refine ⟨accepted, hwrites, ?_⟩
    cases moved with
    | kept _ unset => exact ⟨by omega, fun _ => unset⟩
    | replaced retired _ once => exact ⟨by omega, fun other => absurd retired other⟩

/-- The operator of 4.18.0, whose catalog still has the feature set that is retired. -/
def caretaker : Operator := ⟨⟨.ofList [
  ("Default", ⟨[⟨"A", []⟩], [⟨"B", []⟩]⟩), ("LatencySensitive", ⟨[⟨"B", []⟩], [⟨"A", []⟩]⟩)]⟩, "4.18.0"⟩

/-- A cluster that selects it, and has recorded a release that it has forgotten. -/
def lagging : World where
  cluster := {
    featureGate := some ⟨{ name := some "cluster", resourceVersion := some "7" }, ⟨"LatencySensitive", none⟩,
      some ⟨[⟨"4.17.0", [⟨"B", []⟩], []⟩, ⟨"4.1.0", [], []⟩, ⟨"4.16.0", [], [⟨"B", []⟩]⟩],
        [⟨"Valid", "True", none, none, none⟩]⟩⟩
    clusterVersion := some ⟨{ name := some "version" }, ⟨none⟩,
      some ⟨[⟨"4.18.0", none, none⟩, ⟨"4.17.0", none, none⟩, ⟨"4.16.0", none, none⟩]⟩⟩ }

/-- The gates of the retired feature set are recorded first, and then it cannot be replaced. -/
def early : List Turn := [⟨.featureGates, .none⟩, ⟨.migration, { featureSet := some "conflict" }⟩]

/-- The gates of the new one cannot be recorded. -/
def amid : List Turn := [⟨.featureGates, { featureGateStatus := some "conflict" }⟩, ⟨.migration, .none⟩]

def late : List Turn := [⟨.migration, { featureGate := some (.failed "timeout") }⟩, ⟨.featureGates, .none⟩]

theorem turns_confluent_retiring :
    let turns := early ++ ⟨.migration, .none⟩ :: (amid ++ ⟨.featureGates, .none⟩ :: late)
    let current : Snapshot := ⟨"4.18.0", [⟨"A", []⟩], [⟨"B", []⟩]⟩
    (∃ fg, lagging.cluster.featureGate = some fg ∧ fg.spec.featureSet = MigrationPass.retired) ∧
      (∀ t ∈ turns, t.faults.Truthful) ∧
      (run caretaker lagging early).cluster.snapshots = [⟨"4.18.0", [⟨"B", []⟩], [⟨"A", []⟩]⟩,
        ⟨"4.17.0", [⟨"B", []⟩], []⟩, ⟨"4.16.0", [], [⟨"B", []⟩]⟩] ∧
      (MigrationPass.run .none (run caretaker lagging early)).1 = .ok .migrated ∧
      Succeeds (FeatureGatePass.run caretaker .none
        (run caretaker lagging (early ++ ⟨.migration, .none⟩ :: amid))) current ∧
      (run caretaker lagging turns).cluster =
        (run caretaker lagging [⟨.migration, .none⟩, ⟨.featureGates, .none⟩]).cluster ∧
      ∃ accepted, (run caretaker lagging turns).writes = accepted ∧ accepted.countP Write.setsFeatureSet ≤ 1 := by
  intro turns current
  have truthful : ∀ t ∈ turns, t.faults.Truthful := by decide
  have migrated : (MigrationPass.run .none (run caretaker lagging early)).1 = .ok .migrated := rfl
  have succeeds : Succeeds (FeatureGatePass.run caretaker .none
      (run caretaker lagging (early ++ ⟨.migration, .none⟩ :: amid))) current := .inr rfl
  obtain ⟨same, accepted, hwrites, once, -⟩ := @turns_confluent caretaker lagging _ turns rfl truthful
  exact ⟨⟨_, rfl, rfl⟩, truthful, rfl, migrated, succeeds, same early _ amid _ late _ _ rfl migrated succeeds,
    accepted, hwrites, once⟩

end

end Alternation

end GateOperator
