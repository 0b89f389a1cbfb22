import GateOperator.Api.Call
import GateOperator.Pass.Migration
import GateOperator.Proofs.Pass.Parts

/-!
Passes over the recorded gates that are on their way at the same time, by any number of operators. Between
two parts of one pass there may be parts of others, the write of the pass that retires a feature set, and
changes from outside.

Of the server no more is taken for granted than this: a feature gate object that is stored has a resource
version, a write that is accepted gives it one that it has not had, and changes that insist on another
resource version than that of the stored object are refused as a whole.
-/

namespace GateOperator

/-- The resource version that the changes of a request insist on. -/
def Api.Request.resourceVersion? (q : Api.Request) : Option String := do
  let body ← q.body
  let metadata ← body.value.field? "metadata"
  let version ← metadata.field? "resourceVersion"
  version.text?

namespace Interleaving

open FeatureGatePass

/-- What the server keeps of the feature gate object. -/
structure Store where
  featureGate : Option FeatureGate
  /-- The resource versions that the object has had. -/
  issued : List String
  isIssued : ∀ fg, featureGate = some fg → ∃ version ∈ issued, fg.metadata.resourceVersion = some version

namespace Store

/-- Stores an object, which must come with a resource version that the object has not had. -/
def put? (s : Store) (fg : FeatureGate) : Option Store :=
  match h : fg.metadata.resourceVersion with
  | none => none
  | some version =>
    if version ∈ s.issued then none
    else some ⟨some fg, version :: s.issued, fun _ hfg => ⟨version, by simp, Option.some.inj hfg ▸ h⟩⟩

def remove (s : Store) : Store := ⟨none, s.issued, by simp⟩

end Store

/-- The cluster, and how far each pass has come. -/
structure System where
  store : Store
  clusterVersion : Option ClusterVersion
  nodeConfig : Option NodeConfig
  progress : Nat → Progress

namespace System

def cluster (s : System) : Cluster :=
  { featureGate := s.store.featureGate, clusterVersion := s.clusterVersion, nodeConfig := s.nodeConfig }

def advance (s : System) (pass : Nat) (p : Progress) : System :=
  { s with progress := fun other => if other = pass then p else s.progress other }

/-- The stored object has the resource version that a request insists on, if it insists on one. -/
def admits (fg : FeatureGate) (q : Api.Request) : Bool :=
  q.resourceVersion?.all fun version => fg.metadata.resourceVersion = some version

/-- Sends a write to the server. If the server accepts it, the object has new metadata. -/
def send? (s : System) (w : Write) (given : Metadata) : Option System := do
  let q ← Api.requestFor w
  let _ ← s.store.featureGate.filter fun fg => admits fg q
  let changed ← (s.cluster.apply w).featureGate
  let store ← s.store.put? { changed with metadata := given }
  return { s with store }

/-- Sends the write of a pass, if it has come to that. -/
def write? (operators : Nat → Operator) (s : System) (pass : Nat) (given : Metadata) : Option System := do
  let r ← (s.progress pass).reading?
  let w ← r.write? (operators pass)
  s.send? w given

/-- No pass has read anything yet. -/
def start (store : Store) (clusterVersion : Option ClusterVersion) (nodeConfig : Option NodeConfig) : System :=
  ⟨store, clusterVersion, nodeConfig, fun _ => .begun⟩

end System

/-- Something that happens; `given` are the metadata that the server gives to what it accepts. -/
inductive Action where
  /-- A pass reads the next object. -/
  | read (pass : Nat) (f : Faults)
  /-- A pass ends, with its write if it has come to that. The server may refuse the write. -/
  | write (pass : Nat) (given : Metadata)
  /-- A feature set is retired. -/
  | migrate (given : Metadata)
  /-- The feature gate object is changed or created from outside. -/
  | edit (fg : FeatureGate)
  | remove
  /-- The other objects change. -/
  | change (clusterVersion : Option ClusterVersion) (nodeConfig : Option NodeConfig)

/-- The system after something has happened; what the server refuses has no effect. -/
def Action.perform (operators : Nat → Operator) (s : System) : Action → System
  | read pass f => s.advance pass ((s.progress pass).read s.cluster f)
  | write pass given => ((s.write? operators pass given).getD s).advance pass .ended
  | migrate given => (s.send? MigrationPass.write given).getD s
  | edit fg => { s with store := (s.store.put? fg).getD s.store }
  | remove => { s with store := s.store.remove }
  | change clusterVersion nodeConfig => { s with clusterVersion, nodeConfig }

/-- The system after things have happened in turn. -/
def run (operators : Nat → Operator) (s : System) (actions : List Action) : System :=
  actions.foldl (Action.perform operators) s

section
variable {s s' : System} {store store' : Store} {fg : FeatureGate} {q : Api.Request} {w : Write} {given : Metadata}
  {operators : Nat → Operator} {pass : Nat}

@[simp] theorem run_nil : run operators s [] = s := rfl

@[simp] theorem run_concat {actions : List Action} {a : Action} :
    run operators s (actions ++ [a]) = a.perform operators (run operators s actions) := by
  simp [run]

/-- An object is stored only with a resource version that it has not had. -/
theorem Store.put?_eq_some (h : store.put? fg = some store') :
    store'.featureGate = some fg ∧ ∃ version, fg.metadata.resourceVersion = some version ∧
      version ∉ store.issued ∧ store'.issued = version :: store.issued := by
  unfold put? at h
  split at h
  · cases h
  · rename_i version hversion
    split at h
    · cases h
    · rename_i unused
      cases h
      exact ⟨rfl, version, hversion, unused, rfl⟩

theorem Store.put?_isSome {version : String} (h : fg.metadata.resourceVersion = some version)
    (unused : version ∉ store.issued) : (store.put? fg).isSome := by
  unfold put?
  split
  · rename_i hnone
    cases h.symm.trans hnone
  · rename_i version' hversion
    cases h.symm.trans hversion
    simp [unused]

/-- The changes to the recorded snapshots insist on the resource version of the object that was read. -/
theorem resourceVersion?_of_featureGateStatus {target : Metadata} {status : FeatureGateStatus}
    (h : Api.requestFor (.featureGateStatus target status) = some q) : q.resourceVersion? = target.resourceVersion := by
  simp only [Api.requestFor, Api.patchStatus] at h
  split at h
  · cases h
  · cases h
    simp only [Api.Request.resourceVersion?, Api.Patch.featureGateStatus]
    cases target.resourceVersion <;> rfl

/-- A write that the server has accepted was admitted, and has had its effect on the stored object. -/
theorem System.send?_eq_some (h : s.send? w given = some s') :
    ∃ q fg changed, Api.requestFor w = some q ∧ s.store.featureGate = some fg ∧ admits fg q = true ∧
      (s.cluster.apply w).featureGate = some changed ∧
      s.store.put? { changed with metadata := given } = some s'.store ∧ s'.progress = s.progress := by
  obtain ⟨q, hq, h⟩ := Option.bind_eq_some_iff.mp h
  obtain ⟨fg, hfg, h⟩ := Option.bind_eq_some_iff.mp h
  obtain ⟨hfg, hadmits⟩ := Option.filter_eq_some_iff.mp hfg
  obtain ⟨changed, hchanged, h⟩ := Option.bind_eq_some_iff.mp h
  obtain ⟨store, hstore, h⟩ := Option.bind_eq_some_iff.mp h
  cases h
  exact ⟨q, fg, changed, hq, hfg, hadmits, hchanged, hstore, rfl⟩

/-- A write that is admitted, of a request that can be made, is accepted under an unused resource version. -/
theorem System.send?_isSome {version : String} (hq : Api.requestFor w = some q)
    (stored : s.store.featureGate = some fg) (hadmits : admits fg q = true)
    (hversion : given.resourceVersion = some version) (unused : version ∉ s.store.issued) :
    (s.send? w given).isSome := by
  have hchanged : (s.cluster.apply w).featureGate.isSome := by
    cases w <;> simp [Cluster.apply, System.cluster, stored]
  obtain ⟨changed, hchanged⟩ := Option.isSome_iff_exists.mp hchanged
  have hput : (s.store.put? { changed with metadata := given }).isSome := Store.put?_isSome hversion unused
  obtain ⟨store, hput⟩ := Option.isSome_iff_exists.mp hput
  have hfilter : s.store.featureGate.filter (fun fg => admits fg q) = some fg :=
    Option.filter_eq_some_iff.mpr ⟨stored, hadmits⟩
  simp [send?, hq, hfilter, hchanged, hput]

end

end Interleaving

end GateOperator
