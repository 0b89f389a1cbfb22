import GateOperator.Proofs.History.Merge
import GateOperator.Proofs.Pass.FeatureGates

/-!
One operator making passes over the recorded gates again and again, while nothing else touches the objects
that they read. A pass that goes well leaves snapshots which the next one would leave again. Main statement:
the passes write once at most, and those that go well after the first such pass find everything in place.
-/

namespace GateOperator

/-- The reads of a pass fail or give what is there; none takes an object that is there for missing. -/
structure Faults.Truthful (f : Faults) : Prop where
  featureGate : f.featureGate ≠ some .notFound
  clusterVersion : f.clusterVersion ≠ some .notFound
  nodeConfig : f.nodeConfig ≠ some .notFound

instance {f : Faults} : Decidable f.Truthful :=
  decidable_of_iff (f.featureGate ≠ some .notFound ∧ f.clusterVersion ≠ some .notFound ∧ f.nodeConfig ≠ some .notFound)
    ⟨fun ⟨h₁, h₂, h₃⟩ => ⟨h₁, h₂, h₃⟩, fun ⟨h₁, h₂, h₃⟩ => ⟨h₁, h₂, h₃⟩⟩

namespace FeatureGatePass

/-- The world after passes in turn, each with what stood in its way. -/
def worldAfter (o : Operator) (w : World) (faults : List Faults) : World := faults.foldl (fun w f => (run o f w).2) w

/-- The results of passes in turn. -/
def results (o : Operator) : World → List Faults → List (Except PassError Sync)
  | _, [] => []
  | w, f :: faults => (run o f w).1 :: results o (run o f w).2 faults

/-- What is recorded is what a pass would leave that can read everything. -/
def Settled (o : Operator) (c : Cluster) : Prop :=
  ∃ fg current, Desired o .none c fg current (FeatureGate.snapshots fg)

section
variable {o : Operator} {f : Faults} {c : Cluster} {w : World} {fg fg' : FeatureGate} {cv : ClusterVersion}
  {current current' : Snapshot} {snapshots snapshots' : List Snapshot} {sync : Sync} {faults : List Faults}

/-- Where the objects are there, a pass without an error goes well. -/
theorem succeeds_of_ok (truthful : f.Truthful) (gate : w.cluster.featureGate = some fg)
    (version : w.cluster.clusterVersion = some cv) (h : (run o f w).1 = .ok sync) :
    ∃ current, Succeeds (run o f w) current := by
  have exit := run_exit o f w
  generalize run o f w = result at exit h ⊢
  cases exit with
  | unreadable | unresolved | refused => cases h
  | featureGateMissing missing =>
    have := ReadFault.eq_of_read truthful.featureGate (look_eq_ok missing)
    rw [gate] at this
    cases this
  | clusterVersionMissing missing =>
    have := ReadFault.eq_of_read truthful.clusterVersion (look_eq_ok missing)
    rw [version] at this
    cases this
  | unchanged => exact ⟨_, .inl rfl⟩
  | updated => exact ⟨_, .inr rfl⟩

theorem Desired.of_truthful (truthful : f.Truthful) (h : Desired o f c fg current snapshots) :
    Desired o .none c fg current snapshots := by
  obtain ⟨node, hnode, resolved⟩ := h.resolved
  have hnode := ReadFault.eq_of_read truthful.nodeConfig hnode
  exact ⟨h.stored, ⟨c.nodeConfig, rfl, hnode ▸ resolved⟩, h.merged⟩

theorem Desired.unique (h : Desired o f c fg current snapshots) (h' : Desired o f c fg' current' snapshots') :
    fg = fg' ∧ snapshots = snapshots' := by
  obtain ⟨stored, ⟨node, hnode, resolved⟩, ⟨cv, hcv, merged⟩⟩ := h
  obtain ⟨stored', ⟨node', hnode', resolved'⟩, ⟨cv', hcv', merged'⟩⟩ := h'
  cases stored.symm.trans stored'
  cases hnode.symm.trans hnode'
  cases hcv.symm.trans hcv'
  cases resolved.symm.trans resolved'
  exact ⟨rfl, merged.trans merged'.symm⟩

/-- A pass that goes well leaves nothing to do. -/
theorem settled_of_succeeds (truthful : f.Truthful) (h : Succeeds (run o f w) current) :
    Settled o (run o f w).2.cluster := by
  have exit := run_exit o f w
  generalize run o f w = result at exit h ⊢
  cases exit with
  | unreadable | featureGateMissing | clusterVersionMissing | unresolved | refused =>
    rcases h with h | h <;> cases h
  | @unchanged r p read plan same =>
    exact ⟨r.featureGate, p.current, same ▸ (desired_of_plan read plan).of_truthful truthful⟩
  | @updated r p read plan =>
    -- The object has the merged snapshots now, and merging them once more gives them again.
    have desired := (desired_of_plan read plan).of_truthful truthful
    obtain ⟨cv, hcv, merged⟩ := desired.merged
    have hcluster := cluster_recorded (o := o) (p := p) desired.stored
    refine ⟨r.featureGate.withStatus ⟨p.snapshots, FeatureGate.conditions r.featureGate⟩, p.current, ?_⟩
    rw [hcluster]
    refine ⟨rfl, desired.resolved, cv, hcv, ?_⟩
    show p.snapshots = History.merge p.current p.snapshots _
    rw [merged, History.merge_merge]

/-- Where there is nothing to do a pass writes nothing, and goes well unless it fails. -/
theorem run_of_settled (truthful : f.Truthful) (settled : Settled o w.cluster) :
    (run o f w).2.cluster = w.cluster ∧ (run o f w).2.writes = w.writes ∧
      ∀ sync, (run o f w).1 = .ok sync → ∃ current, sync = .unchanged current := by
  obtain ⟨fg, current, desired⟩ := settled
  obtain ⟨cv, hcv, -⟩ := desired.merged
  have succeeds (sync : Sync) (h : (run o f w).1 = .ok sync) : ∃ current, Succeeds (run o f w) current :=
    succeeds_of_ok truthful desired.stored hcv h
  have exit := run_exit o f w
  generalize run o f w = result at exit succeeds ⊢
  cases exit with
  | unreadable | unresolved | refused => exact ⟨rfl, rfl, fun sync h => by cases h⟩
  | featureGateMissing | clusterVersionMissing =>
    obtain ⟨current, h | h⟩ := succeeds _ rfl <;> cases h
  | unchanged =>
    refine ⟨rfl, rfl, fun sync h => ?_⟩
    cases h
    exact ⟨_, rfl⟩
  | updated read plan differs =>
    obtain ⟨rfl, same⟩ := ((desired_of_plan read plan).of_truthful truthful).unique desired
    exact absurd same differs

theorem settled_worldAfter (truthful : ∀ f ∈ faults, f.Truthful) (settled : Settled o w.cluster) :
    (worldAfter o w faults).writes = w.writes ∧
      ∀ result ∈ results o w faults, ∀ sync, result = .ok sync → ∃ current, sync = .unchanged current := by
  induction faults generalizing w with
  | nil => exact ⟨rfl, nofun⟩
  | cons f faults ih =>
    obtain ⟨hcluster, hwrites, hresult⟩ := run_of_settled (truthful f (by simp)) settled
    obtain ⟨ihwrites, ihresults⟩ := ih (w := (run o f w).2) (fun f hf => truthful f (by simp [hf])) (hcluster ▸ settled)
    refine ⟨ihwrites.trans hwrites, fun result h => ?_⟩
    rcases List.mem_cons.mp h with rfl | h
    · exact hresult
    · exact ihresults result h

/-- A pass writes once at most. -/
theorem writes_run : (run o f w).2.writes = w.writes ∨ ∃ write, (run o f w).2.writes = w.writes ++ [write] := by
  have exit := run_exit o f w
  generalize run o f w = result at exit ⊢
  cases exit with
  | unreadable | featureGateMissing | clusterVersionMissing | unresolved | refused | unchanged => exact .inl rfl
  | updated => exact .inr ⟨_, rfl⟩

/-- Passes of one operator, during which nothing else changes the objects that they read, write once at most;
    and a pass without an error finds everything in place if some pass before it was without one. -/
theorem repetition_writes_once (gate : w.cluster.featureGate = some fg) (version : w.cluster.clusterVersion = some cv)
    (truthful : ∀ f ∈ faults, f.Truthful) :
    (∃ accepted, (worldAfter o w faults).writes = w.writes ++ accepted ∧ accepted.length ≤ 1) ∧
      (results o w faults).Pairwise fun earlier later =>
        ∀ before after, earlier = .ok before → later = .ok after → ∃ current, after = .unchanged current := by
  induction faults generalizing w with
  | nil => exact ⟨⟨[], by simp [worldAfter]⟩, .nil⟩
  | cons f faults ih =>
    have truthful_f := truthful f (by simp)
    have truthful := fun f hf => truthful f (List.mem_cons_of_mem _ hf)
    by_cases succeeds : ∃ current, Succeeds (run o f w) current
    · obtain ⟨current, succeeds⟩ := succeeds
      obtain ⟨hwrites, hresults⟩ := settled_worldAfter truthful (settled_of_succeeds truthful_f succeeds)
      refine ⟨?_, List.pairwise_cons.mpr ⟨fun later hlater _ after _ hafter => hresults later hlater after hafter, ?_⟩⟩
      · show ∃ accepted, (worldAfter o (run o f w).2 faults).writes = _ ∧ _
        rw [hwrites]
        rcases writes_run (o := o) (f := f) (w := w) with h | ⟨write, h⟩
        · exact ⟨[], by simp [h]⟩
        · exact ⟨[write], by simp [h]⟩
      · exact List.pairwise_of_forall_mem_list fun _ _ later hlater _ after _ hafter =>
          hresults later hlater after hafter
    · have hworld := world_of_not_succeeds fun current h => succeeds ⟨current, h⟩
      obtain ⟨hwrites, hresults⟩ := ih gate version truthful
      refine ⟨?_, List.pairwise_cons.mpr ⟨fun _ _ before _ hbefore => ?_, ?_⟩⟩
      · show ∃ accepted, (worldAfter o (run o f w).2 faults).writes = _ ∧ _
        rw [hworld]
        exact hwrites
      · exact absurd (succeeds_of_ok truthful_f gate version hbefore) succeeds
      · rw [hworld]
        exact hresults

/-- The operator of 4.18.0, with one gate that a kubelet has to be new enough for. -/
def keeper : Operator := ⟨⟨.ofList [("Default", ⟨[⟨"A", [⟨"Kubelet", "1.31.0"⟩]⟩, ⟨"B", []⟩], []⟩)]⟩, "4.18.0"⟩

/-- A cluster whose snapshots are out of order, with a release twice and with one that it has forgotten. -/
def crowded : World where
  cluster := {
    featureGate := some ⟨{ name := some "cluster", resourceVersion := some "7" }, ⟨"", none⟩, some ⟨[
      ⟨"4.16.0", [], []⟩, ⟨"4.18.0", [], []⟩, ⟨"4.17.0", [⟨"B", []⟩], []⟩, ⟨"4.16.0", [⟨"C", []⟩], []⟩,
      ⟨"4.1.0", [], []⟩], []⟩⟩
    clusterVersion := some ⟨{ name := some "version" }, ⟨none⟩,
      some ⟨[⟨"4.18.0", none, none⟩, ⟨"4.17.0", none, none⟩, ⟨"4.16.0", none, none⟩]⟩⟩
    nodeConfig := some ⟨{ name := some "cluster" }, ⟨"1.31.2"⟩, none⟩ }

/-- A read and a write fail before a pass goes well, and another read before the next one does. -/
def obstacles : List Faults := [
  { nodeConfig := some (.failed "timeout") }, { featureGateStatus := some "conflict" }, .none,
  { featureGate := some (.failed "timeout") }, { featureGateStatus := some "conflict" }]

theorem repetition_writes_once_crowded :
    results keeper crowded obstacles = [.error (.cluster "timeout"), .error (.cluster "conflict"),
        .ok (.updated ⟨"4.18.0", [⟨"A", [⟨"Kubelet", "1.31.0"⟩]⟩, ⟨"B", []⟩], []⟩), .error (.cluster "timeout"),
        .ok (.unchanged ⟨"4.18.0", [⟨"A", [⟨"Kubelet", "1.31.0"⟩]⟩, ⟨"B", []⟩], []⟩)] ∧
      (∀ f ∈ obstacles, f.Truthful) ∧
      (∃ accepted, (worldAfter keeper crowded obstacles).writes = crowded.writes ++ accepted ∧ accepted.length ≤ 1) ∧
      (results keeper crowded obstacles).Pairwise fun earlier later =>
        ∀ before after, earlier = .ok before → later = .ok after → ∃ current, after = .unchanged current := by
  have truthful : ∀ f ∈ obstacles, f.Truthful := by decide
  exact ⟨rfl, truthful, repetition_writes_once rfl rfl truthful⟩

end

end FeatureGatePass

end GateOperator
