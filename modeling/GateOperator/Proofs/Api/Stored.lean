import GateOperator.Proofs.Api.Patch
import GateOperator.Proofs.Pass.FeatureGates
import GateOperator.Proofs.Pass.Publication

/-!
The cluster as a server stores it, in JSON that the patches of the operator are merged into, beside the
cluster whose statuses are assigned. Main statement: both are the same to the operator, before and after any
number of passes.
-/

namespace GateOperator

open Json

/-- A pass that writes a status. -/
inductive StatusPass where
  | featureGates (o : Operator) (f : Faults)
  | publication (f : Faults) (clock : Nat → String)

def StatusPass.run (w : World) : StatusPass → World
  | featureGates o f => (FeatureGatePass.run o f w).2
  | publication f clock => (Publication.run f clock w).2

namespace Api

/-- The objects whose statuses are written, as a server stores them. -/
structure StoredObjects where
  featureGate : Option Value
  clusterOperator : Option Value

namespace StoredObjects

/-- The stored objects are read as those of the cluster. -/
structure Hold (s : StoredObjects) (c : Cluster) : Prop where
  featureGate : s.featureGate.map (Resource.read? FeatureGate.kind .json) = c.featureGate.map some
  clusterOperator : s.clusterOperator.map (Resource.read? ClusterOperator.kind .json) = c.clusterOperator.map some

/-- The stored objects after the patch of a write. -/
def merge (s : StoredObjects) : Write → StoredObjects
  | .featureGateStatus target status =>
    { s with featureGate := s.featureGate.map (MergePatch.apply · (Patch.featureGateStatus target status)) }
  | .clusterOperatorStatus status =>
    { s with clusterOperator := s.clusterOperator.map (MergePatch.apply · (Patch.clusterOperatorStatus status)) }
  | .featureSet _ _ => s

/-- What is read of an object follows when a merge into it does what an assignment does to what is read. -/
theorem map_read_map {α : Type} {read : Value → Option α} {stored : Option Value} {object : Option α}
    {merge : Value → Value} {assign : α → α} (h : stored.map read = object.map some)
    (step : ∀ v a, object = some a → read v = some a → read (merge v) = some (assign a)) :
    (stored.map merge).map read = (object.map assign).map some := by
  cases object with
  | none =>
    rw [Option.map_eq_none_iff.mp h]
    rfl
  | some a =>
    obtain ⟨v, rfl, hv⟩ := Option.map_eq_some_iff.mp h
    exact congrArg some (step v a rfl hv)

section
variable {s : StoredObjects} {c : Cluster} {w : World}

theorem Hold.merge_featureGateStatus {r : FeatureGatePass.Reading} (p : FeatureGatePass.Plan) (h : s.Hold c)
    (hgate : c.featureGate = some r.featureGate) : (s.merge (r.write p)).Hold (c.apply (r.write p)) where
  featureGate := map_read_map h.featureGate fun v fg hfg hv => by
    cases hgate.symm.trans hfg
    exact FeatureGate.read?_patched hv rfl
  clusterOperator := h.clusterOperator

theorem Hold.merge_clusterOperatorStatus (status : ClusterOperatorStatus) (h : s.Hold c) :
    (s.merge (.clusterOperatorStatus status)).Hold (c.apply (.clusterOperatorStatus status)) where
  featureGate := h.featureGate
  clusterOperator := map_read_map h.clusterOperator fun _ _ _ hv => ClusterOperator.read?_patched status hv

/-- What a pass writes can be merged or assigned. -/
theorem Hold.pass (pass : StatusPass) (h : s.Hold w.cluster) : ∃ writes,
    (pass.run w).writes = w.writes ++ writes ∧ (writes.foldl merge s).Hold (pass.run w).cluster := by
  have idle {w' : World} (hwrites : w'.writes = w.writes) (hcluster : w'.cluster = w.cluster) :
      ∃ writes, w'.writes = w.writes ++ writes ∧ (writes.foldl merge s).Hold w'.cluster :=
    ⟨[], by rw [hwrites, List.append_nil], hcluster ▸ h⟩
  cases pass with
  | featureGates o f =>
    rw [StatusPass.run]
    have exit := FeatureGatePass.run_exit o f w
    generalize FeatureGatePass.run o f w = result at exit ⊢
    cases exit with
    | unreadable | featureGateMissing | clusterVersionMissing | unresolved | unchanged | refused => exact idle rfl rfl
    | @updated r p read =>
      have stored : w.cluster.featureGate = some r.featureGate := (FeatureGatePass.look_eq_ok read).featureGate
      exact ⟨[r.write p], rfl, h.merge_featureGateStatus p stored⟩
  | publication f clock =>
    rw [StatusPass.run]
    have exit := Publication.run_exit f clock w
    generalize Publication.run f clock w = result at exit ⊢
    cases exit with
    | unreadable | missing | reported | refused => exact idle rfl rfl
    | published => exact ⟨[_], rfl, h.merge_clusterOperatorStatus _⟩

theorem Hold.passes {passes : List StatusPass} (h : s.Hold w.cluster) : ∃ writes,
    (passes.foldl StatusPass.run w).writes = w.writes ++ writes ∧
      (writes.foldl merge s).Hold (passes.foldl StatusPass.run w).cluster := by
  induction passes generalizing s w with
  | nil => exact ⟨[], (List.append_nil _).symm, h⟩
  | cons pass passes ih =>
    obtain ⟨writes, hwrites, h⟩ := h.pass pass
    obtain ⟨more, hmore, h⟩ := ih h
    refine ⟨writes ++ more, ?_, by rwa [List.foldl_append]⟩
    rw [List.foldl_cons, hmore, hwrites, List.append_assoc]

end

end StoredObjects

/-- The patch of a pass over the gates, merged into any stored object, has the effect of replacing its status,
    and so has that of a publication; these patches are what is sent. A server that merges them and a cluster
    that is assigned the statuses therefore agree after any number of passes. -/
theorem patches_replace_statuses :
    (∀ (stored : Value) (r : FeatureGatePass.Reading) (p : FeatureGatePass.Plan),
      Resource.read? FeatureGate.kind .json stored = some r.featureGate →
      ∃ patch, (r.write p).mergePatch? = some patch ∧
        Resource.read? FeatureGate.kind .json (MergePatch.apply stored patch) =
          some (r.featureGate.withStatus ⟨p.snapshots, FeatureGate.conditions r.featureGate⟩)) ∧
    (∀ (stored : Value) (co : ClusterOperator) (s : OperatorStatus) (clock : Nat → String),
      Resource.read? ClusterOperator.kind .json stored = some co →
      ∃ patch, (Write.clusterOperatorStatus (s.build clock).1).mergePatch? = some patch ∧
        Resource.read? ClusterOperator.kind .json (MergePatch.apply stored patch) =
          some (co.withStatus (s.build clock).1)) ∧
    (∀ (w : Write) (q : Request) (patch : Value), requestFor w = some q → w.mergePatch? = some patch →
      q.body = some ⟨.mergePatch, patch⟩) ∧
    ∀ (s : StoredObjects) (w : World) (passes : List StatusPass), s.Hold w.cluster → ∃ writes,
      (passes.foldl StatusPass.run w).writes = w.writes ++ writes ∧
        (writes.foldl StoredObjects.merge s).Hold (passes.foldl StatusPass.run w).cluster :=
  ⟨fun _ _ _ h => ⟨_, rfl, FeatureGate.read?_patched h rfl⟩,
    fun _ _ s clock h => ⟨_, rfl, ClusterOperator.read?_patched (s.build clock).1 h⟩,
    fun _ _ _ => body_of_requestFor, fun _ _ _ => StoredObjects.Hold.passes⟩

/-- A feature gate object as stored, with fields that are not declared and with null for missing ones. -/
def storedGate : Value := .record [
  ("apiVersion", .text apiVersion),
  ("kind", .text FeatureGate.kind.name),
  ("metadata", .record [("name", .text "cluster"), ("labels", .null), ("resourceVersion", .text "7"),
    ("shard", .int 2)]),
  ("spec", .record [("featureSet", .text "")]),
  ("status", .record [("observed", .int 3), ("conditions", .list [])])]

/-- A cluster operator object as stored, without a status yet. -/
def storedOperator : Value := .record [
  ("metadata", .record [("name", .text "config-operator")]), ("spec", .record []), ("status", .null)]

/-- What is read of the stored feature gate object, beside a cluster version without history. -/
def storedReading : FeatureGatePass.Reading where
  featureGate := ⟨{ name := some "cluster", resourceVersion := some "7" }, ⟨"", none⟩, some .empty⟩
  clusterVersion := ⟨{}, ⟨none⟩, none⟩
  nodeConfig := none

def storedOperatorObject : ClusterOperator := ⟨{ name := some "config-operator" }, {}, none⟩

theorem patches_replace_statuses_stored :
    let p : FeatureGatePass.Plan := ⟨⟨"4.16.0", [.named "NodeSwap"], []⟩, [⟨"4.16.0", [.named "NodeSwap"], []⟩]⟩
    let s : OperatorStatus := .empty
    let clock : Nat → String := fun _ => "2024-05-01T00:00:00Z"
    let world : World := { cluster := { clusterOperator := some storedOperatorObject } }
    Resource.read? FeatureGate.kind .json storedGate = some storedReading.featureGate ∧
    (∃ patch, (storedReading.write p).mergePatch? = some patch ∧
      Resource.read? FeatureGate.kind .json (MergePatch.apply storedGate patch) =
        some (storedReading.featureGate.withStatus ⟨p.snapshots, []⟩)) ∧
    Resource.read? ClusterOperator.kind .json storedOperator = some storedOperatorObject ∧
    (∃ patch, (Write.clusterOperatorStatus (s.build clock).1).mergePatch? = some patch ∧
      Resource.read? ClusterOperator.kind .json (MergePatch.apply storedOperator patch) =
        some (storedOperatorObject.withStatus (s.build clock).1)) ∧
    (∃ q patch, requestFor (storedReading.write p) = some q ∧ (storedReading.write p).mergePatch? = some patch ∧
      q.body = some ⟨.mergePatch, patch⟩) ∧
    StoredObjects.Hold ⟨none, some storedOperator⟩ world.cluster ∧
    ∃ writes, ((StatusPass.publication .none clock).run world).writes = writes ∧
      (writes.foldl StoredObjects.merge ⟨none, some storedOperator⟩).Hold
        ((StatusPass.publication .none clock).run world).cluster := by
  intro p s clock world
  have hold : StoredObjects.Hold ⟨none, some storedOperator⟩ world.cluster := ⟨rfl, rfl⟩
  have sent : requestFor (storedReading.write p) = some ⟨.patch, path "featuregates" "cluster" ++ "/status", [],
      some ⟨.mergePatch, Patch.featureGateStatus storedReading.featureGate.metadata ⟨p.snapshots, []⟩⟩⟩ := by
    show patchStatus "featuregates" "cluster" _ = _
    rw [patchStatus, if_neg (by decide)]
    rfl
  exact ⟨rfl, patches_replace_statuses.1 storedGate storedReading p rfl, rfl,
    patches_replace_statuses.2.1 storedOperator storedOperatorObject s clock rfl,
    ⟨_, _, sent, rfl, patches_replace_statuses.2.2.1 _ _ _ sent rfl⟩, hold,
    patches_replace_statuses.2.2.2 ⟨none, some storedOperator⟩ world [.publication .none clock] hold⟩

end Api

end GateOperator
