import GateOperator.Proofs.History.Merge
import GateOperator.Proofs.Succession.Basic
import Mathlib.Data.List.Induction

/-!
What operators in succession make of the recorded snapshots. Main statements: no release is ever recorded
twice if none was at the start, and a pass that goes well leaves its own release first and no others than
the cluster remembers; the snapshots of other releases stay as they are and where they are for as long as
the passes spare them, and what is gone comes back only by a pass of its own release.
-/

namespace GateOperator.Succession

open FeatureGatePass

section
variable {w : World} {turns : List Turn} {t : Turn} {current s : Snapshot} {entries : List Snapshot} {version : String}

theorem version_mem_known_of_resolves (h : t.Resolves w current) : current.version ∈ t.known w := by
  rw [h.version]
  exact History.running_mem_knownVersions

theorem nodup_pass (distinct : (w.cluster.snapshots.map (·.version)).Nodup) :
    ((t.pass w).2.cluster.snapshots.map (·.version)).Nodup := by
  rcases t.snapshots_pass w with ⟨current, -, -, h⟩ | ⟨-, h⟩
  · rw [h]
    exact History.nodup_merge distinct
  · rwa [h]

theorem nodup_run (distinct : (w.cluster.snapshots.map (·.version)).Nodup) :
    ((run w turns).cluster.snapshots.map (·.version)).Nodup := by
  induction turns using List.reverseRecOn with
  | nil => exact distinct
  | append_singleton turns t ih =>
    rw [run_concat]
    exact nodup_pass ih

/-- Snapshots of distinct releases are of distinct releases after any passes. After one that went well the
    first of them is that of its release, the cluster remembers the releases of all of them, and they are no
    more than the releases that it remembers. -/
theorem run_distinct_bounded (distinct : (w.cluster.snapshots.map (·.version)).Nodup) :
    ((run w turns).cluster.snapshots.map (·.version)).Nodup ∧
      ∀ t current, Succeeds (t.pass (run w turns)) current →
        let recorded := (run w (turns ++ [t])).cluster.snapshots
        (∃ rest, recorded = current :: rest) ∧ current.version = t.operator.version ∧
          (∀ s ∈ recorded, s.version ∈ t.known (run w turns)) ∧
          recorded.length ≤ (t.known (run w turns)).length := by
  have hrun : ((run w turns).cluster.snapshots.map (·.version)).Nodup := nodup_run distinct
  refine ⟨hrun, fun t current succeeds => ?_⟩
  rcases t.snapshots_pass (run w turns) with ⟨current', succeeds', resolves, h⟩ | ⟨fails, -⟩
  · cases Turn.succeeds_unique succeeds succeeds'
    have hcurrent := version_mem_known_of_resolves resolves
    dsimp only
    rw [run_concat, h]
    exact ⟨⟨_, rfl⟩, resolves.version, fun s => History.version_mem_of_mem_merge hcurrent,
      History.length_merge_le hcurrent hrun⟩
  · exact absurd succeeds (fails current)

/-- Two releases that are recorded apart from 4.17.0. -/
def older : List Snapshot := [⟨"4.15.0", [⟨"A", []⟩], []⟩, ⟨"4.16.0", [], [⟨"A", []⟩]⟩]

/-- A cluster that has recorded 4.17.0 between them. -/
def remembering : World where
  cluster := {
    featureGate := some ⟨{ name := some "cluster", resourceVersion := some "7" }, ⟨"", none⟩,
      some ⟨older.take 1 ++ ⟨"4.17.0", [], [⟨"A", []⟩]⟩ :: older.drop 1, []⟩⟩ }

/-- A pass of the operator of a release, in a cluster that has come to remember the given ones. -/
def passAt (version : String) (history : List String) : Turn where
  operator := ⟨⟨.ofList [("Default", ⟨[⟨"B", []⟩], [⟨"A", []⟩]⟩)]⟩, version⟩
  faults := .none
  change w := { w with cluster := { w.cluster with
    clusterVersion := some ⟨{ name := some "version" }, ⟨none⟩, some ⟨history.map fun v => ⟨v, none, none⟩⟩⟩ } }
  keeps _ := rfl

/-- What such a pass resolves. -/
def resolvedAt (version : String) : Snapshot := ⟨version, [⟨"B", []⟩], [⟨"A", []⟩]⟩

/-- An upgrade, and back again. -/
def upgradeAndBack : List Turn := [
  passAt "4.18.0" ["4.17.0", "4.16.0", "4.15.0"], passAt "4.17.0" ["4.18.0", "4.17.0", "4.16.0", "4.15.0"]]

/-- The cluster forgets 4.18.0 and 4.16.0. -/
def forgetting : Turn := passAt "4.17.0" ["4.15.0"]

theorem run_distinct_bounded_downgrade :
    (remembering.cluster.snapshots.map (·.version)).Nodup ∧
      (run remembering upgradeAndBack).cluster.snapshots.map (·.version) = ["4.17.0", "4.18.0", "4.15.0", "4.16.0"] ∧
      ((run remembering upgradeAndBack).cluster.snapshots.map (·.version)).Nodup ∧
      Succeeds (forgetting.pass (run remembering upgradeAndBack)) (resolvedAt "4.17.0") ∧
      (∃ rest, (run remembering (upgradeAndBack ++ [forgetting])).cluster.snapshots = resolvedAt "4.17.0" :: rest) ∧
      (∀ s ∈ (run remembering (upgradeAndBack ++ [forgetting])).cluster.snapshots,
        s.version ∈ forgetting.known (run remembering upgradeAndBack)) ∧
      (run remembering (upgradeAndBack ++ [forgetting])).cluster.snapshots.length ≤
        (forgetting.known (run remembering upgradeAndBack)).length := by
  have distinct : (remembering.cluster.snapshots.map (·.version)).Nodup := by decide
  have succeeds : Succeeds (forgetting.pass (run remembering upgradeAndBack)) (resolvedAt "4.17.0") := .inr rfl
  obtain ⟨hdistinct, hlast⟩ := @run_distinct_bounded remembering upgradeAndBack distinct
  obtain ⟨hfirst, -, hknown, hlength⟩ := hlast _ _ succeeds
  exact ⟨distinct, rfl, hdistinct, succeeds, hfirst, hknown, hlength⟩

/-- Every pass spares the release. -/
def Spared (w : World) (turns : List Turn) (version : String) : Prop :=
  ∀ before t after, turns = before ++ t :: after → t.Spares (run w before) version

@[simp] theorem spared_nil : Spared w [] version := fun before t after h => by simp at h

@[simp] theorem spared_concat :
    Spared w (turns ++ [t]) version ↔ Spared w turns version ∧ t.Spares (run w turns) version := by
  constructor
  · intro h
    exact ⟨fun before u after hturns => h before u (after ++ [t]) (by simp [hturns]), h turns t [] rfl⟩
  · rintro ⟨hturns, ht⟩ before u after h
    rcases List.eq_nil_or_concat after with rfl | ⟨after, x, rfl⟩
    · obtain ⟨rfl, hu⟩ := List.append_inj' h rfl
      cases hu
      exact ht
    · rw [List.concat_eq_append, ← List.cons_append, ← List.append_assoc] at h
      exact hturns before u after (List.append_inj' h rfl).1

theorem sublist_pass (recorded : entries.Sublist w.cluster.snapshots) (spares : ∀ s ∈ entries, t.Spares w s.version) :
    entries.Sublist (t.pass w).2.cluster.snapshots := by
  rcases t.snapshots_pass w with ⟨current, succeeds, resolves, h⟩ | ⟨-, h⟩
  · rw [h]
    refine History.sublist_merge recorded fun s hs => ?_
    rw [resolves.version]
    exact spares s hs current succeeds
  · rwa [h]

theorem sublist_run (recorded : entries.Sublist w.cluster.snapshots) (spared : ∀ s ∈ entries, Spared w turns s.version) :
    entries.Sublist (run w turns).cluster.snapshots := by
  induction turns using List.reverseRecOn with
  | nil => exact recorded
  | append_singleton turns t ih =>
    rw [run_concat]
    exact sublist_pass (ih fun s hs => (spared_concat.mp (spared s hs)).1) fun s hs => (spared_concat.mp (spared s hs)).2

/-- A snapshot that is recorded after a pass was recorded before it, or the pass has resolved it. -/
theorem mem_pass (h : s ∈ (t.pass w).2.cluster.snapshots) :
    s ∈ w.cluster.snapshots ∨ Succeeds (t.pass w) s ∧ t.Resolves w s := by
  rcases t.snapshots_pass w with ⟨current, succeeds, resolves, hpass⟩ | ⟨-, hpass⟩
  · rw [hpass] at h
    rcases History.mem_merge.mp h with rfl | ⟨h, -⟩
    · exact .inr ⟨succeeds, resolves⟩
    · exact .inl h
  · exact .inl (hpass ▸ h)

theorem mem_run (h : s ∈ (run w turns).cluster.snapshots) :
    s ∈ w.cluster.snapshots ∨ ∃ before t after, turns = before ++ t :: after ∧
      Succeeds (t.pass (run w before)) s ∧ t.Resolves (run w before) s := by
  induction turns using List.reverseRecOn with
  | nil => exact .inl h
  | append_singleton turns t ih =>
    rw [run_concat] at h
    rcases mem_pass h with h | ⟨succeeds, resolves⟩
    · rcases ih h with h | ⟨before, u, after, rfl, resolved⟩
      · exact .inl h
      · exact .inr ⟨before, u, after ++ [t], by simp, resolved⟩
    · exact .inr ⟨turns, t, [], rfl, succeeds, resolves⟩

/-- Recorded snapshots whose releases all passes spare are still recorded, as they were and in the order in
    which they stood. A snapshot of a release that was not recorded is the one to which some pass of that
    release has resolved since. -/
theorem run_keeps_others :
    (∀ entries : List Snapshot, entries.Sublist w.cluster.snapshots →
        (∀ s ∈ entries, Spared w turns s.version) → entries.Sublist (run w turns).cluster.snapshots) ∧
      ∀ s ∈ (run w turns).cluster.snapshots, (∀ e ∈ w.cluster.snapshots, e.version ≠ s.version) →
        ∃ before t after, turns = before ++ t :: after ∧ t.operator.version = s.version ∧
          Succeeds (t.pass (run w before)) s ∧ t.Resolves (run w before) s := by
  refine ⟨fun entries => sublist_run, fun s hs absent => ?_⟩
  rcases mem_run hs with h | ⟨before, t, after, hturns, succeeds, resolves⟩
  · exact absurd rfl (absent s h)
  · exact ⟨before, t, after, hturns, resolves.version.symm, succeeds, resolves⟩

/-- On the way up and back the older releases stay as they were, and 4.18.0 comes in by its own pass. -/
theorem run_keeps_others_downgrade :
    (∀ s ∈ older, Spared remembering upgradeAndBack s.version) ∧
      older.Sublist (run remembering upgradeAndBack).cluster.snapshots ∧
      (∀ e ∈ remembering.cluster.snapshots, e.version ≠ "4.18.0") ∧
      ∃ before t after, upgradeAndBack = before ++ t :: after ∧ t.operator.version = "4.18.0" ∧
        Succeeds (t.pass (run remembering before)) (resolvedAt "4.18.0") ∧
        t.Resolves (run remembering before) (resolvedAt "4.18.0") := by
  have spared : ∀ s ∈ older, Spared remembering upgradeAndBack s.version := by
    intro s hs
    refine spared_concat.mpr ⟨spared_concat.mpr ⟨spared_nil, fun _ _ => ?_⟩, fun _ _ => ?_⟩
    · revert s
      decide
    · revert s
      decide
  have recorded : older.Sublist remembering.cluster.snapshots := by decide
  have absent : ∀ e ∈ remembering.cluster.snapshots, e.version ≠ "4.18.0" := by decide
  obtain ⟨hothers, hgone⟩ := @run_keeps_others remembering upgradeAndBack
  exact ⟨spared, hothers older recorded spared, absent, hgone (resolvedAt "4.18.0") (by decide) absent⟩

end

end GateOperator.Succession
