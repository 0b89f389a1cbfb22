import GateOperator.Proofs.History.Merge
import GateOperator.Proofs.Interleaving.Basic
import Mathlib.Data.List.Induction

/-!
A write upon an outdated reading is refused. The copy of the feature gate object that a pass works with is
the stored object for as long as that has the resource version of the copy, since no other object ever has
it; and the write insists on this resource version. Main statement: a write that is accepted merges into
what is stored at that moment, so that nothing that the cluster remembers is lost between two passes.
-/

namespace GateOperator.Interleaving

open FeatureGatePass

/-- The copy is the stored object for as long as that has the resource version of the copy. -/
def Store.Holds (s : Store) (copy : FeatureGate) : Prop :=
  ∃ version ∈ s.issued, copy.metadata.resourceVersion = some version ∧
    ∀ fg, s.featureGate = some fg → fg.metadata.resourceVersion = some version → fg = copy

/-- The store holds every copy that a pass works with. -/
def System.Consistent (s : System) : Prop := ∀ pass copy, (s.progress pass).copy? = some copy → s.store.Holds copy

section
variable {store store' : Store} {fg copy : FeatureGate} {q : Api.Request}

theorem Store.holds_of_stored (h : store.featureGate = some fg) : store.Holds fg := by
  obtain ⟨version, hissued, hversion⟩ := store.isIssued fg h
  exact ⟨version, hissued, hversion, fun fg' h' _ => Option.some.inj (h'.symm.trans h)⟩

theorem Store.Holds.put? (holds : store.Holds copy) (h : store.put? fg = some store') : store'.Holds copy := by
  obtain ⟨hstored, new, hnew, unused, hissued⟩ := Store.put?_eq_some h
  obtain ⟨version, hversion, hcopy, -⟩ := holds
  refine ⟨version, by simp [hissued, hversion], hcopy, fun fg' hfg' h' => ?_⟩
  -- The object that is stored now has a resource version that the copy does not have.
  cases hstored.symm.trans hfg'
  cases hnew.symm.trans h'
  exact absurd hversion unused

theorem Store.Holds.remove (holds : store.Holds copy) : store.remove.Holds copy := by
  obtain ⟨version, hversion, hcopy, -⟩ := holds
  exact ⟨version, hversion, hcopy, fun _ h => by cases h⟩

/-- A request that insists on the resource version of a copy is admitted only while the copy is what is stored. -/
theorem Store.Holds.eq_of_admits (holds : store.Holds copy) (stored : store.featureGate = some fg)
    (hq : q.resourceVersion? = copy.metadata.resourceVersion) (admits : System.admits fg q = true) : fg = copy := by
  obtain ⟨version, -, hcopy, heq⟩ := holds
  rw [System.admits, hq, hcopy, Option.all_some, decide_eq_true_eq] at admits
  exact heq fg stored admits

end

section
variable {operators : Nat → Operator} {s s' : System} {pass : Nat} {p : Progress} {w : Write} {given : Metadata}
  {fg : FeatureGate} {a : Action} {q : Api.Request}

theorem System.Consistent.advance (h : s.Consistent) (hp : ∀ copy, p.copy? = some copy → s.store.Holds copy) :
    (s.advance pass p).Consistent := by
  intro other copy hcopy
  simp only [System.advance] at hcopy
  split at hcopy
  · exact hp copy hcopy
  · exact h other copy hcopy

theorem System.Consistent.put? (h : s.Consistent) (hput : s.store.put? fg = some s'.store)
    (hprogress : s'.progress = s.progress) : s'.Consistent := fun other copy hcopy =>
  (h other copy (hprogress ▸ hcopy)).put? hput

theorem System.Consistent.send? (h : s.Consistent) (hsend : s.send? w given = some s') : s'.Consistent := by
  obtain ⟨q, fg, changed, -, -, -, -, hput, hprogress⟩ := System.send?_eq_some hsend
  exact h.put? hput hprogress

/-- A pass whose write is accepted has read everything, and writes what it plans upon that. -/
theorem System.write?_eq_some (h : s.write? operators pass given = some s') :
    ∃ r p, s.progress pass = .hasAll r ∧ r.plan (operators pass) = .ok p ∧ s.send? (r.write p) given = some s' := by
  obtain ⟨r, hr, h⟩ := Option.bind_eq_some_iff.mp h
  obtain ⟨w, hw, h⟩ := Option.bind_eq_some_iff.mp h
  obtain ⟨p, hplan, -, rfl⟩ := Reading.write?_eq_some_iff.mp hw
  exact ⟨r, p, Progress.reading?_eq_some_iff.mp hr, hplan, h⟩

theorem consistent_perform (h : s.Consistent) : (a.perform operators s).Consistent := by
  cases a with
  | read pass f =>
    refine h.advance fun copy hcopy => ?_
    rcases Progress.copy?_read hcopy with hcopy | stored
    · exact h pass copy hcopy
    · exact Store.holds_of_stored stored
  | write pass given =>
    -- The pass itself has no copy any more; for the others only the store may have changed.
    have hnone : ∀ copy, Progress.ended.copy? = some copy → ∀ store : Store, store.Holds copy := fun _ h => by cases h
    simp only [Action.perform]
    cases hwrite : s.write? operators pass given with
    | none => exact h.advance fun copy hcopy => hnone copy hcopy _
    | some s' =>
      obtain ⟨r, p, -, -, hsend⟩ := System.write?_eq_some hwrite
      exact (h.send? hsend).advance fun copy hcopy => hnone copy hcopy _
  | migrate given =>
    simp only [Action.perform]
    cases hsend : s.send? MigrationPass.write given with
    | none => exact h
    | some s' => exact h.send? hsend
  | edit fg =>
    simp only [Action.perform]
    cases hput : s.store.put? fg with
    | none => exact h
    | some store =>
      show System.Consistent { s with store }
      exact h.put? hput rfl
  | remove => exact fun pass copy hcopy => (h pass copy hcopy).remove
  | change clusterVersion nodeConfig => exact h

/-- Some things in turn lead from a system in which no pass has read anything yet. -/
def Reached (operators : Nat → Operator) (s : System) : Prop :=
  ∃ store clusterVersion nodeConfig actions, s = run operators (.start store clusterVersion nodeConfig) actions

theorem consistent_of_reached (h : Reached operators s) : s.Consistent := by
  obtain ⟨store, clusterVersion, nodeConfig, actions, rfl⟩ := h
  induction actions using List.reverseRecOn with
  | nil => exact fun pass copy hcopy => by cases hcopy
  | append_singleton actions a ih =>
    rw [run_concat]
    exact consistent_perform ih

theorem stored_of_send? {r : Reading} {p : Plan} (consistent : s.Consistent) (hprogress : s.progress pass = .hasAll r)
    (h : s.send? (r.write p) given = some s') : s.store.featureGate = some r.featureGate := by
  obtain ⟨q, fg, changed, hq, stored, admits, -⟩ := System.send?_eq_some h
  have holds : s.store.Holds r.featureGate := consistent pass _ (by rw [hprogress]; rfl)
  obtain rfl := holds.eq_of_admits stored (resourceVersion?_of_featureGateStatus hq) admits
  exact stored

/-- If a pass has come to a write for which there is a request, and the server has an unused resource version
    for it, then the write is accepted if and only if the object is still stored as the pass has read it. -/
theorem accepts_iff_stored {r : Reading} {version : String} (reached : Reached operators s)
    (hprogress : s.progress pass = .hasAll r) (hw : r.write? (operators pass) = some w)
    (hq : Api.requestFor w = some q) (hversion : given.resourceVersion = some version)
    (unused : version ∉ s.store.issued) :
    (s.write? operators pass given).isSome ↔ s.store.featureGate = some r.featureGate := by
  have hwrite : s.write? operators pass given = s.send? w given := by
    simp [System.write?, hprogress, Progress.reading?, hw]
  obtain ⟨p, -, -, rfl⟩ := Reading.write?_eq_some_iff.mp hw
  rw [hwrite]
  constructor
  · intro h
    obtain ⟨s', h⟩ := Option.isSome_iff_exists.mp h
    exact stored_of_send? (consistent_of_reached reached) hprogress h
  · intro stored
    refine System.send?_isSome hq stored ?_ hversion unused
    rw [System.admits, resourceVersion?_of_featureGateStatus hq]
    cases r.featureGate.metadata.resourceVersion <;> simp

/-- Whatever happens between the parts of passes, a write that is accepted records what the specification
    stored at that moment resolves to, merged with the snapshots recorded at that moment, and keeps the
    conditions. It loses no snapshot of another release that the cluster remembers as far as the pass knows. -/
theorem accepted_write_merges (reached : Reached operators s) (accepted : s.write? operators pass given = some s') :
    ∃ r fg current, s.progress pass = .hasAll r ∧ s.store.featureGate = some fg ∧
      fg.spec.snapshot (operators pass).catalog (operators pass).version (Observations.ofNode r.nodeConfig) =
        .ok current ∧
      s'.store.featureGate = some ⟨given, fg.spec, some ⟨History.merge current (FeatureGate.snapshots fg)
        (History.knownVersions (operators pass).version r.history), FeatureGate.conditions fg⟩⟩ ∧
      ∀ e ∈ FeatureGate.snapshots fg, e.version ≠ (operators pass).version →
        e.version ∈ History.knownVersions (operators pass).version r.history → e ∈ s'.cluster.snapshots := by
  obtain ⟨r, p, hprogress, hplan, hsend⟩ := System.write?_eq_some accepted
  have stored := stored_of_send? (consistent_of_reached reached) hprogress hsend
  obtain ⟨resolved, merged⟩ := Reading.plan_eq_ok_iff.mp hplan
  obtain ⟨-, -, changed, -, -, -, hchanged, hput, -⟩ := System.send?_eq_some hsend
  have hwritten : changed = r.featureGate.withStatus ⟨p.snapshots, FeatureGate.conditions r.featureGate⟩ := by
    rw [Reading.write, Cluster.apply, System.cluster, stored] at hchanged
    exact (Option.some.inj hchanged).symm
  obtain ⟨hstored, -⟩ := Store.put?_eq_some hput
  rw [hwritten, merged] at hstored
  refine ⟨r, r.featureGate, p.current, hprogress, stored, resolved, hstored, fun e he other known => ?_⟩
  rw [Cluster.snapshots, System.cluster, hstored]
  have hother : e.version ≠ p.current.version := by
    rwa [FeatureGateSpec.version_of_snapshot resolved]
  exact History.mem_merge.mpr (.inr ⟨he, hother, known⟩)

/-- During an upgrade one replica is still of 4.17.0, and has another catalog than those of 4.18.0. -/
def replicas : Nat → Operator
  | 1 => ⟨⟨.ofList [("Default", ⟨[⟨"B", [⟨"Kubelet", "1.30.0"⟩]⟩], [⟨"A", []⟩]⟩)]⟩, "4.17.0"⟩
  | _ => ⟨⟨.ofList [("Default", ⟨[⟨"A", []⟩, ⟨"B", [⟨"Kubelet", "1.30.0"⟩]⟩, ⟨"C", [⟨"Kubelet", "1.31.0"⟩]⟩], []⟩)]⟩,
      "4.18.0"⟩

/-- The node configuration with a lowest kubelet version. -/
def kubelets (version : String) : NodeConfig := ⟨{ name := some "cluster" }, ⟨version⟩, none⟩

/-- Only 4.16.0 is recorded, beside a condition. -/
def upgrading : System := .start
  { featureGate := some ⟨{ name := some "cluster", resourceVersion := some "1" }, ⟨"", none⟩,
      some ⟨[⟨"4.16.0", [⟨"A", []⟩], []⟩], [⟨"Valid", "True", none, none, none⟩]⟩⟩
    issued := ["1"]
    isIssued := fun _ h => ⟨"1", by simp, by cases h; rfl⟩ }
  (some ⟨{ name := some "version" }, ⟨none⟩, some ⟨[⟨"4.17.0", none, none⟩, ⟨"4.16.0", none, none⟩]⟩⟩)
  (some (kubelets "1.29.0"))

/-- Two passes read the object before either writes; the write of 4.17.0 comes first, and then a third pass
    reads what it has left, with the upgrade beginning and newer kubelets coming between its reads. -/
def overlapping : List Action := [
  .read 0 .none, .read 1 .none, .read 0 .none, .read 1 .none, .read 1 .none, .read 0 .none,
  .write 1 { name := some "cluster", resourceVersion := some "2" }, .read 2 .none,
  .change (some ⟨{ name := some "version" }, ⟨none⟩, some ⟨[⟨"4.18.0", none, none⟩, ⟨"4.17.0", none, none⟩,
    ⟨"4.16.0", none, none⟩]⟩⟩) (some (kubelets "1.30.0")), .read 2 .none, .read 2 .none]

/-- The metadata with which the server answers the next write. -/
def answer : Metadata := { name := some "cluster", resourceVersion := some "3" }

/-- The third pass writes, and keeps what the pass of 4.17.0 has recorded. The first is refused. `B` is off where
    the older kubelets were read and on where the newer ones were. -/
theorem accepted_write_merges_upgrading :
    (run replicas upgrading overlapping).write? replicas 0 answer = none ∧
      ∃ s', (run replicas upgrading overlapping).write? replicas 2 answer = some s' ∧
        s'.cluster.snapshots = [
          ⟨"4.18.0", [⟨"A", []⟩, ⟨"B", [⟨"Kubelet", "1.30.0"⟩]⟩], [⟨"C", [⟨"Kubelet", "1.31.0"⟩]⟩]⟩,
          ⟨"4.17.0", [], [⟨"A", []⟩, ⟨"B", [⟨"Kubelet", "1.30.0"⟩]⟩]⟩, ⟨"4.16.0", [⟨"A", []⟩], []⟩] ∧
        s'.cluster.featureGate.map FeatureGate.conditions = some [⟨"Valid", "True", none, none, none⟩] ∧
        ∃ r fg current, (run replicas upgrading overlapping).progress 2 = .hasAll r ∧
          r.nodeConfig = some (kubelets "1.30.0") ∧
          (run replicas upgrading overlapping).store.featureGate = some fg ∧
          fg.spec.snapshot (replicas 2).catalog (replicas 2).version (Observations.ofNode r.nodeConfig) = .ok current ∧
          s'.store.featureGate = some ⟨answer, fg.spec, some ⟨History.merge current (FeatureGate.snapshots fg)
            (History.knownVersions (replicas 2).version r.history), FeatureGate.conditions fg⟩⟩ := by
  have reached : Reached replicas (run replicas upgrading overlapping) := ⟨_, _, _, overlapping, rfl⟩
  have accepted : (run replicas upgrading overlapping).write? replicas 2 answer = some _ := rfl
  obtain ⟨r, fg, current, hprogress, stored, resolved, hstored, -⟩ := accepted_write_merges reached accepted
  have node : r.nodeConfig = some (kubelets "1.30.0") := by
    cases hprogress
    rfl
  refine ⟨rfl, _, accepted, rfl, rfl, ?_⟩
  exact ⟨r, fg, current, hprogress, node, stored, resolved, hstored⟩

end

end GateOperator.Interleaving
