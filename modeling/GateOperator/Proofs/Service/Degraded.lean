import GateOperator.Proofs.Service.Basic
import GateOperator.Proofs.Session.Basic
import GateOperator.Proofs.Status.Degraded

/-!
What the operator says about its controllers. Main statement: once both have made a pass, it reports itself as
degraded exactly when the last pass of one of them has failed, or when the condition of some other controller
was taken over as failing. Nobody reports for such a controller any more, so nothing takes that back.
-/

namespace GateOperator.Service

/-- The last pass of the controller, and what was wrong with it if anything. -/
def LastPass (o : Operator) (w : World) (actions : List Action) (c : Controller) (failure : Option String) : Prop :=
  ∃ before f elapsed after, actions = before ++ .offer c Place.featureGate.name f elapsed :: after ∧
    (∀ a ∈ after, ¬a.IsPass c) ∧ failure = c.failure? o f (run o w before)

section
variable {o : Operator} {w : World} {a : Action} {actions : List Action} {c : Controller} {f : Faults}
  {elapsed : Duration} {name : String} {failure : Option String}

/-- The last pass is the action just taken, if that is a pass of the controller, and else the one before. -/
theorem lastPass_concat : LastPass o w (actions ++ [a]) c failure ↔
    (∃ f elapsed, a = .offer c Place.featureGate.name f elapsed ∧ failure = c.failure? o f (run o w actions)) ∨
      ¬a.IsPass c ∧ LastPass o w actions c failure := by
  constructor
  · rintro ⟨before, f, elapsed, after, heq, hafter, hfailure⟩
    rcases List.eq_nil_or_concat after with rfl | ⟨after, x, rfl⟩
    · obtain ⟨rfl, hlast⟩ := List.append_inj' heq rfl
      exact .inl ⟨f, elapsed, List.cons_eq_cons.mp hlast |>.1, hfailure⟩
    · rw [List.concat_eq_append, ← List.cons_append, ← List.append_assoc] at heq
      obtain ⟨rfl, hlast⟩ := List.append_inj' heq rfl
      cases hlast
      exact .inr ⟨hafter a (by simp), before, f, elapsed, after, rfl, fun b hb => hafter b (by simp [hb]), hfailure⟩
  · rintro (⟨f, elapsed, rfl, hfailure⟩ | ⟨other, before, f, elapsed, after, rfl, hafter, hfailure⟩)
    · exact ⟨actions, f, elapsed, [], rfl, by simp, hfailure⟩
    · refine ⟨before, f, elapsed, after ++ [a], by simp, fun b hb => ?_, hfailure⟩
      rcases List.mem_append.mp hb with hb | hb
      · exact hafter b hb
      · exact List.mem_singleton.mp hb ▸ other

theorem exists_offer_of_isPass (h : a.IsPass c) : ∃ f elapsed, a = .offer c Place.featureGate.name f elapsed := by
  cases a with
  | offer other object f elapsed =>
    obtain ⟨rfl, rfl⟩ := h
    exact ⟨f, elapsed, rfl⟩
  | update | publish | change => exact h.elim

theorem exists_lastPass (passed : ∃ a ∈ actions, a.IsPass c) : ∃ failure, LastPass o w actions c failure := by
  induction actions using List.reverseRecOn with
  | nil =>
    obtain ⟨a, ha, -⟩ := passed
    cases ha
  | append_singleton actions a ih =>
    by_cases hpass : a.IsPass c
    · obtain ⟨f, elapsed, rfl⟩ := exists_offer_of_isPass hpass
      exact ⟨_, lastPass_concat.mpr (.inl ⟨f, elapsed, rfl, rfl⟩)⟩
    · obtain ⟨b, hb, hpassb⟩ := passed
      rcases List.mem_append.mp hb with hb | hb
      · obtain ⟨failure, hlast⟩ := ih ⟨b, hb, hpassb⟩
        exact ⟨failure, lastPass_concat.mpr (.inr ⟨hpass, hlast⟩)⟩
      · exact absurd (List.mem_singleton.mp hb ▸ hpassb) hpass

theorem outcomes_pass :
    (c.pass o f elapsed w).1.status.outcomes = w.status.outcomes.insert c.name (c.failure? o f w) := by
  obtain ⟨versions, hversions, hstatus⟩ := status_pass (o := o) (w := w) (c := c) (f := f)
  have unreported : (OperatorStatus.run w.status versions).outcomes = w.status.outcomes := by
    clear hstatus
    induction versions using List.reverseRecOn with
    | nil => rfl
    | append_singleton versions u ih =>
      obtain ⟨_, _, rfl⟩ := hversions u (by simp)
      rw [OperatorStatus.run_append]
      exact ih fun v hv => hversions v (by simp [hv])
  rw [hstatus, OperatorStatus.run_append]
  show (OperatorStatus.run w.status versions).outcomes.insert c.name (c.failure? o f w) = _
  rw [unreported]

/-- Only a pass, or an outcome that is recorded by hand, changes what is known of the controllers. -/
theorem outcomes_perform_other (own : ∀ controller failure, a ≠ .update (.setOutcome controller failure))
    (other : ∀ c, ¬a.IsPass c) : (a.perform o w).status.outcomes = w.status.outcomes := by
  cases a with
  | offer c object f elapsed =>
    have elsewhere : object ≠ Place.featureGate.name := fun heq => other c ⟨rfl, heq⟩
    rw [perform_offer, if_neg elsewhere]
  | update u =>
    cases u with
    | setVersion | build => rfl
    | setOutcome controller failure => exact absurd rfl (own controller failure)
  | publish f clock =>
    have exit := Publication.run_exit f clock w
    show (Publication.run f clock w).2.status.outcomes = _
    generalize Publication.run f clock w = result at exit ⊢
    cases exit <;> rfl
  | change => rfl

/-- If outcomes are recorded by passes only, what is known of a controller is how its last pass has ended. -/
theorem outcomes_run (unreported : w.status.outcomes = .empty)
    (own : ∀ controller failure, .update (.setOutcome controller failure) ∉ actions) :
    (run o w actions).status.outcomes.find? name = some failure ↔
      ∃ c : Controller, name = c.name ∧ LastPass o w actions c failure := by
  induction actions using List.reverseRecOn generalizing failure with
  | nil =>
    rw [run_nil, unreported, NameMap.find?_empty]
    simp [LastPass]
  | append_singleton actions a ih =>
    have earlier := @ih failure fun controller failure h => own controller failure (by simp [h])
    rw [run_append, run_singleton]
    by_cases hpass : ∃ c, a.IsPass c
    · obtain ⟨c, hpass⟩ := hpass
      obtain ⟨f, elapsed, rfl⟩ := exists_offer_of_isPass hpass
      rw [perform_offer, if_pos rfl, outcomes_pass, NameMap.find?_insert]
      split
      · rename_i hname
        rw [Option.some.injEq]
        constructor
        · rintro rfl
          exact ⟨c, hname, lastPass_concat.mpr (.inl ⟨f, elapsed, rfl, rfl⟩)⟩
        · rintro ⟨c', hname', hlast⟩
          cases Controller.name_injective (hname.symm.trans hname')
          rcases lastPass_concat.mp hlast with ⟨f', elapsed', heq, rfl⟩ | ⟨other, -⟩
          · cases heq
            rfl
          · exact absurd hpass other
      · rename_i hname
        rw [earlier]
        refine exists_congr fun c' => and_congr_right fun hname' => ?_
        have other : ¬(Action.offer c Place.featureGate.name f elapsed).IsPass c' := fun h => hname (h.1 ▸ hname')
        rw [lastPass_concat, or_iff_right, and_iff_right other]
        rintro ⟨_, _, heq, -⟩
        cases heq
        exact hname hname'
    · have other : ∀ c, ¬a.IsPass c := fun c h => hpass ⟨c, h⟩
      have unrecorded : ∀ controller failure, a ≠ .update (.setOutcome controller failure) :=
        fun controller failure h => own controller failure (by simp [h])
      rw [outcomes_perform_other unrecorded other, earlier]
      refine exists_congr fun c => and_congr_right fun _ => ?_
      rw [lastPass_concat, or_iff_right, and_iff_right (other c)]
      rintro ⟨_, _, rfl, -⟩
      exact other c ⟨rfl, rfl⟩

/-- Once every controller has made a pass, the controllers that are known of are exactly these. -/
theorem mem_names_outcomes_run_iff (unreported : w.status.outcomes = .empty)
    (own : ∀ controller failure, .update (.setOutcome controller failure) ∉ actions)
    (passed : ∀ c : Controller, ∃ a ∈ actions, a.IsPass c) :
    name ∈ (run o w actions).status.outcomes.names ↔ ∃ c : Controller, name = c.name := by
  rw [NameMap.mem_names_iff, Option.isSome_iff_exists]
  constructor
  · rintro ⟨failure, h⟩
    obtain ⟨c, hc, -⟩ := (outcomes_run unreported own).mp h
    exact ⟨c, hc⟩
  · rintro ⟨c, rfl⟩
    obtain ⟨failure, hlast⟩ := exists_lastPass (o := o) (w := w) (passed c)
    exact ⟨failure, (outcomes_run unreported own).mpr ⟨c, rfl, hlast⟩⟩

end

section
variable {o : Operator} {cluster : Cluster} {persisted : Option ClusterOperatorStatus} {version : String}
  {actions : List Action}

/-- The conditions of some controllers with which a process starts, and those that were reported before. -/
theorem exists_isTrue_start_iff {other : String → Prop}
    (distinct : ∀ reported, persisted = some reported → Conditions.Distinct reported.conditions) :
    (∃ controller ≠ "", other controller ∧ Conditions.IsTrue (Session.start cluster persisted version).status.conditions
      (Degraded.conditionType controller)) ↔
    ∃ reported, persisted = some reported ∧ ∃ d ∈ reported.conditions, d.status = Condition.isTrue ∧
      ∃ controller, Degraded.controller? d.type = some controller ∧ other controller := by
  have conditions : (Session.start cluster persisted version).status.conditions =
      (persisted.map (·.conditions)).getD [] := OperatorStatus.conditions_seed
  rw [conditions]
  constructor
  · rintro ⟨controller, hne, hother, htrue⟩
    cases hp : persisted with
    | none =>
      rw [hp] at htrue
      obtain ⟨_, hfound, -⟩ := htrue
      cases hfound
    | some reported =>
      rw [hp] at htrue
      obtain ⟨d, hd, htype, hstatus⟩ := (Conditions.isTrue_iff (distinct reported hp)).mp htrue
      have hname := Degraded.controller?_eq_some_iff.mpr ⟨hne, htype⟩
      exact ⟨reported, rfl, d, hd, hstatus, controller, hname, hother⟩
  · rintro ⟨reported, rfl, d, hd, hstatus, controller, hname, hother⟩
    obtain ⟨hne, htype⟩ := Degraded.controller?_eq_some_iff.mp hname
    exact ⟨controller, hne, hother, (Conditions.isTrue_iff (distinct reported rfl)).mpr ⟨d, hd, htype, hstatus⟩⟩

theorem isDegraded_iff_lastPass_or_carried (clock : Nat → String)
    (distinct : ∀ reported, persisted = some reported → Conditions.Distinct reported.conditions)
    (own : ∀ controller failure, .update (.setOutcome controller failure) ∉ actions)
    (passed : ∀ c : Controller, ∃ a ∈ actions, a.IsPass c) :
    ((run o (Session.start cluster persisted version) actions).status.build clock).1.IsDegraded ↔
      (∃ c text, LastPass o (Session.start cluster persisted version) actions c (some text)) ∨
      ∃ reported, persisted = some reported ∧ ∃ d ∈ reported.conditions, d.status = Condition.isTrue ∧
        ∃ controller, Degraded.controller? d.type = some controller ∧ ∀ c : Controller, controller ≠ c.name := by
  have named : ∀ a ∈ actions, a.Named := by
    rintro (_ | _ | _ | _) ha
    · trivial
    · rename_i u
      cases u with
      | setVersion | build => trivial
      | setOutcome => exact absurd ha (own _ _)
    · trivial
    · trivial
  obtain ⟨updates, hnamed, hstatus⟩ := status_run (o := o) (w := Session.start cluster persisted version) named
  have sound : (Session.start cluster persisted version).status.Sound := OperatorStatus.sound_seed distinct
  have unreported : (Session.start cluster persisted version).status.outcomes = .empty := OperatorStatus.outcomes_seed
  have outcomes {name : String} {failure : Option String} :=
    @outcomes_run o (Session.start cluster persisted version) actions name failure unreported own
  have known (name : String) :=
    @mem_names_outcomes_run_iff o (Session.start cluster persisted version) actions name unreported own passed
  rw [hstatus] at outcomes known ⊢
  rw [OperatorStatus.isDegraded_build_run_iff sound hnamed]
  refine or_congr ?_ ?_
  · constructor
    · rintro ⟨controller, text, h⟩
      obtain ⟨c, -, hlast⟩ := outcomes.mp h
      exact ⟨c, text, hlast⟩
    · rintro ⟨c, text, hlast⟩
      exact ⟨c.name, text, outcomes.mpr ⟨c, rfl, hlast⟩⟩
  · simp only [known, not_exists]
    exact exists_isTrue_start_iff distinct

/-- The operator of the release 4.18.0, with one gate. -/
def attendant : Operator := ⟨⟨.ofList [("Default", ⟨[⟨"A", []⟩], []⟩)]⟩, "4.18.0"⟩

/-- A cluster in which the passes of both controllers go well. -/
def attended : Cluster where
  featureGate := some ⟨{ name := some "cluster", resourceVersion := some "7" }, ⟨"", none⟩, none⟩
  clusterVersion := some ⟨{ name := some "version" }, ⟨none⟩, some ⟨[⟨"4.18.0", none, none⟩]⟩⟩
  clusterOperator := some ⟨{ name := some "config-operator" }, {}, none⟩

/-- A controller of this release was failing before the start, and so was one that this release does not have. -/
def reportedFailing : ClusterOperatorStatus where
  conditions := [
    ⟨"FeatureGateControllerDegraded", "True", some "SyncError", some "timeout", some "t0"⟩,
    ⟨"RetiredControllerDegraded", "True", some "SyncError", some "gone", some "t0"⟩]
  versions := []

/-- Each controller makes a pass that goes well. -/
def passes : List Action := [.offer .featureGates "cluster" .none ⟨0⟩, .offer .migration "cluster" .none ⟨0⟩]

/-- A pass over the gates fails, and the status is built; then both controllers do well. -/
def recovery : List Action :=
  .offer .featureGates "cluster" { featureGate := some (.failed "timeout") } ⟨0⟩ ::
    .update (.build fun _ => "t1") :: passes

theorem isDegraded_iff_lastPass_or_carried_recovery :
    (∀ reported, some reportedFailing = some reported → Conditions.Distinct reported.conditions) ∧
      (∀ controller failure, .update (.setOutcome controller failure) ∉ recovery) ∧
      (∀ c : Controller, ∃ a ∈ recovery, a.IsPass c) ∧
      (((run attendant (Session.start attended (some reportedFailing) "4.18.0") recovery).status.build
          fun _ => "t2").1.IsDegraded ↔
        (∃ c text, LastPass attendant (Session.start attended (some reportedFailing) "4.18.0") recovery c (some text)) ∨
        ∃ reported, some reportedFailing = some reported ∧ ∃ d ∈ reported.conditions, d.status = Condition.isTrue ∧
          ∃ controller, Degraded.controller? d.type = some controller ∧ ∀ c : Controller, controller ≠ c.name) := by
  have distinct : ∀ reported, some reportedFailing = some reported → Conditions.Distinct reported.conditions := by
    rintro _ ⟨⟩
    decide
  have own : ∀ controller failure, .update (.setOutcome controller failure) ∉ recovery := by simp [recovery, passes]
  have passed : ∀ c : Controller, ∃ a ∈ recovery, a.IsPass c := by
    rintro (_ | _) <;> decide
  exact ⟨distinct, own, passed, isDegraded_iff_lastPass_or_carried _ distinct own passed⟩

/-- Both controllers do well, but the condition of one that is gone keeps the operator degraded. -/
theorem degraded_without_failing_pass :
    ¬∀ (o : Operator) (cluster : Cluster) (persisted : Option ClusterOperatorStatus) (version : String)
        (actions : List Action) (clock : Nat → String),
      (∀ reported, persisted = some reported → Conditions.Distinct reported.conditions) →
      (∀ a ∈ actions, (∃ c, a.IsPass c) ∨ ∃ clock, a = .update (.build clock)) →
      (∀ c : Controller, ∃ a ∈ actions, a.IsPass c) →
      (((run o (Session.start cluster persisted version) actions).status.build clock).1.IsDegraded ↔
        ∃ c text, LastPass o (Session.start cluster persisted version) actions c (some text)) := by
  intro h
  have distinct : ∀ reported, some reportedFailing = some reported → Conditions.Distinct reported.conditions := by
    rintro _ ⟨⟩
    decide
  have only : ∀ a ∈ passes, (∃ c, a.IsPass c) ∨ ∃ clock, a = .update (.build clock) := by
    intro a ha
    simp only [passes, List.mem_cons, List.not_mem_nil, or_false] at ha
    rcases ha with rfl | rfl
    · exact .inl ⟨.featureGates, rfl, rfl⟩
    · exact .inl ⟨.migration, rfl, rfl⟩
  have passed : ∀ c : Controller, ∃ a ∈ passes, a.IsPass c := by
    rintro (_ | _) <;> decide
  have sound : (run attendant (Session.start attended (some reportedFailing) "4.18.0") passes).status.Sound :=
    ⟨by decide, by decide⟩
  have degraded : ((run attendant (Session.start attended (some reportedFailing) "4.18.0") passes).status.build
      fun _ => "t1").1.IsDegraded :=
    (OperatorStatus.isDegraded_build_iff sound).mpr (.inr ⟨"RetiredController", by decide, by decide, _, rfl, rfl⟩)
  obtain ⟨c, text, hlast⟩ := (h attendant attended _ "4.18.0" passes _ distinct only passed).mp degraded
  have own : ∀ controller failure, .update (.setOutcome controller failure) ∉ passes := by simp [passes]
  have failed := (outcomes_run OperatorStatus.outcomes_seed own).mpr ⟨c, rfl, hlast⟩
  cases c with
  | featureGates => exact absurd failed nofun
  | migration => exact absurd failed nofun

end

end GateOperator.Service
