import GateOperator.Proofs.Status.Updates

/-!
What updates have recorded. Of several outcomes of a controller, and of several versions under a name, the
last one counts; what has not been recorded is as it was taken over. The conditions are those built last.
-/

namespace GateOperator

/-- The last item of a kind. -/
def LastOf {α : Type} (kind : α → Prop) (items : List α) (a : α) : Prop :=
  ∃ before after, items = before ++ a :: after ∧ kind a ∧ ∀ b ∈ after, ¬kind b

section
variable {α : Type} {kind : α → Prop} {items : List α} {a b : α}

theorem not_lastOf_nil : ¬LastOf kind [] a := by
  rintro ⟨before, after, split, -, -⟩
  simp at split

theorem lastOf_concat : LastOf kind (items ++ [b]) a ↔ kind b ∧ a = b ∨ ¬kind b ∧ LastOf kind items a := by
  constructor
  · rintro ⟨before, after, split, ha, later⟩
    rcases List.eq_nil_or_concat after with rfl | ⟨after, c, rfl⟩
    · obtain ⟨-, hlast⟩ := List.append_inj' split rfl
      cases hlast
      exact .inl ⟨ha, rfl⟩
    · rw [List.concat_eq_append, ← List.cons_append, ← List.append_assoc] at split
      obtain ⟨rfl, hlast⟩ := List.append_inj' split rfl
      cases hlast
      exact .inr ⟨later b (by simp), before, after, rfl, ha, fun c hc => later c (by simp [hc])⟩
  · rintro (⟨hb, rfl⟩ | ⟨hb, before, after, rfl, ha, later⟩)
    · exact ⟨items, [], rfl, hb, by simp⟩
    · refine ⟨before, after ++ [b], by simp, ha, fun c hc => ?_⟩
      rcases List.mem_append.mp hc with hc | hc
      · exact later c hc
      · exact List.mem_singleton.mp hc ▸ hb

theorem exists_lastOf_iff : (∃ a, LastOf kind items a) ↔ ∃ a ∈ items, kind a := by
  induction items using List.reverseRecOn with
  | nil => simp [not_lastOf_nil]
  | append_singleton items b ih =>
    simp only [lastOf_concat, List.mem_append, List.mem_singleton]
    by_cases hb : kind b
    · simp only [hb, true_and, not_true_eq_false, false_and, or_false, exists_eq, true_iff]
      exact ⟨b, .inr rfl, hb⟩
    · simp only [hb, false_and, not_false_eq_true, true_and, false_or, ih]
      constructor
      · rintro ⟨a, ha, h⟩
        exact ⟨a, .inl ha, h⟩
      · rintro ⟨a, ha | rfl, h⟩
        · exact ⟨a, ha, h⟩
        · exact absurd h hb

theorem lastOf_iff_find? [DecidablePred kind] : LastOf kind items a ↔ items.reverse.find? kind = some a := by
  induction items using List.reverseRecOn with
  | nil => simp [not_lastOf_nil]
  | append_singleton items b ih =>
    rw [lastOf_concat, ih, List.reverse_append, List.reverse_singleton, List.singleton_append, List.find?_cons]
    by_cases hb : kind b
    · simp [hb, eq_comm]
    · simp [hb]

end

namespace ClusterOperatorStatus

variable {s : ClusterOperatorStatus} {name version : String}

theorem version?_eq_some_iff : s.version? name = some version ↔
    LastOf (·.name = name) s.versions ⟨name, version⟩ := by
  rw [lastOf_iff_find?, version?, Option.map_eq_some_iff]
  constructor
  · rintro ⟨v, hv, rfl⟩
    have hname : v.name = name := by simpa using List.find?_some hv
    rw [hv, ← hname]
  · exact fun h => ⟨_, h, rfl⟩

theorem version?_eq_none_iff : s.version? name = none ↔ ∀ v ∈ s.versions, v.name ≠ name := by
  simp [version?]

end ClusterOperatorStatus

namespace OperatorStatus

namespace Update

/-- The update records how a pass of the controller has ended. -/
def IsOutcome (controller : String) : Update → Prop
  | setOutcome other _ => other = controller
  | setVersion _ _ | build _ => False

/-- The update records a version under the name. -/
def IsVersion (name : String) : Update → Prop
  | setVersion other _ => other = name
  | setOutcome _ _ | build _ => False

def IsBuild : Update → Prop
  | build _ => True
  | setVersion _ _ | setOutcome _ _ => False

instance {controller : String} : DecidablePred (IsOutcome controller)
  | setOutcome other _ => inferInstanceAs (Decidable (other = controller))
  | setVersion _ _ | build _ => inferInstanceAs (Decidable False)

instance {name : String} : DecidablePred (IsVersion name)
  | setVersion other _ => inferInstanceAs (Decidable (other = name))
  | setOutcome _ _ | build _ => inferInstanceAs (Decidable False)

instance : DecidablePred IsBuild
  | build _ => inferInstanceAs (Decidable True)
  | setVersion _ _ | setOutcome _ _ => inferInstanceAs (Decidable False)

end Update

/-- The controller has reported in one of the updates. -/
def Reported (updates : List Update) (controller : String) : Prop := ∃ u ∈ updates, u.IsOutcome controller

/-- A condition of the type is that of a controller that has reported. -/
def OfReporter (updates : List Update) (type : String) : Prop :=
  ∃ controller, Reported updates controller ∧ type = Degraded.conditionType controller

/-- The updates record this outcome of the controller, and no other one after it. -/
def LastOutcome (updates : List Update) (controller : String) (failure : Option String) : Prop :=
  LastOf (Update.IsOutcome controller) updates (.setOutcome controller failure)

/-- The updates record this version under the name, and no other one after it. -/
def LastVersion (updates : List Update) (name version : String) : Prop :=
  LastOf (Update.IsVersion name) updates (.setVersion name version)

/-- The conditions that a start takes over. -/
def takenOver (persisted : Option ClusterOperatorStatus) : List Condition := (persisted.map (·.conditions)).getD []

/-- The version that a start leaves under a name: the running release under the name for that, else the one
    reported last under the name, and an empty one for the written gates if none was reported. -/
inductive Started (persisted : Option ClusterOperatorStatus) (running : String) : String → String → Prop where
  | release : Started persisted running operator running
  | reported {name version : String} {status : ClusterOperatorStatus} (other : name ≠ operator)
      (known : persisted = some status) (last : LastOf (·.name = name) status.versions ⟨name, version⟩) :
      Started persisted running name version
  | unclaimed (unreported : ∀ status, persisted = some status → ∀ v ∈ status.versions, v.name ≠ featureGates) :
      Started persisted running featureGates ""

/-- The conditions that were built last in the course of the updates; those taken over if none were built. -/
inductive LastBuilt (persisted : Option ClusterOperatorStatus) (running : String) (updates : List Update) :
    List Condition → Prop where
  | takenOver (unbuilt : ∀ u ∈ updates, ¬u.IsBuild) : LastBuilt persisted running updates (takenOver persisted)
  | built {before after : List Update} {clock : Nat → String} (split : updates = before ++ .build clock :: after)
      (last : ∀ u ∈ after, ¬u.IsBuild) :
      LastBuilt persisted running updates ((run (empty.seed persisted running) before).build clock).1.conditions

section
variable {s : OperatorStatus} {u : Update} {updates more : List Update} {persisted : Option ClusterOperatorStatus}
  {running name type version controller : String} {failure : Option String} {conditions : List Condition}
  {reported : ClusterOperatorStatus}

/-- What is looked up after updates is what the last update of a kind has recorded, if such updates record it
    and no others touch it. -/
theorem look_run {α : Type} {kind : Update → Prop} {record : α → Update} {a : α} (look : OperatorStatus → Option α)
    (kinds : ∀ u, kind u ↔ ∃ a, u = record a) (recorded : ∀ s a, look ((record a).perform s) = some a)
    (kept : ∀ s u, ¬kind u → look (u.perform s) = look s) :
    look (run s updates) = some a ↔
      LastOf kind updates (record a) ∨ (∀ u ∈ updates, ¬kind u) ∧ look s = some a := by
  -- From the end: an update of the kind decides what is looked up, and any other one leaves it.
  induction updates using List.reverseRecOn with
  | nil => simp [not_lastOf_nil]
  | append_singleton updates u ih =>
    rw [run_append, run_singleton, lastOf_concat, List.forall_mem_append, List.forall_mem_singleton]
    by_cases hu : kind u
    · obtain ⟨b, rfl⟩ := (kinds u).mp hu
      have same : record a = record b ↔ b = a := by
        refine ⟨fun h => ?_, fun h => congrArg record h.symm⟩
        exact Option.some.inj ((recorded s b).symm.trans (h ▸ recorded s a))
      simp [recorded, hu, same]
    · simp [kept _ u hu, hu, ih]

theorem find?_outcomes_run : (run s updates).outcomes.find? controller = some failure ↔
    LastOutcome updates controller failure ∨
      (∀ u ∈ updates, ¬u.IsOutcome controller) ∧ s.outcomes.find? controller = some failure := by
  refine look_run (fun s => s.outcomes.find? controller) (fun u => ?_) (fun s failure => ?_) fun s u hu => ?_
  · cases u <;> simp [Update.IsOutcome]
  · exact NameMap.find?_insert.trans (if_pos rfl)
  · cases u with
    | setVersion | build => rfl
    | setOutcome other failure => exact NameMap.find?_insert.trans (if_neg (Ne.symm hu))

theorem version?_run_iff : (run s updates).version? name = some version ↔
    LastVersion updates name version ∨
      (∀ u ∈ updates, ¬u.IsVersion name) ∧ s.version? name = some version := by
  refine look_run (fun s => s.version? name) (fun u => ?_) (fun s version => ?_) fun s u hu => ?_
  · cases u <;> simp [Update.IsVersion]
  · exact version?_setVersion.trans (if_pos rfl)
  · cases u with
    | setOutcome | build => rfl
    | setVersion other version => exact version?_setVersion.trans (if_neg (Ne.symm hu))

theorem find?_outcomes_run_seed :
    (run (empty.seed persisted running) updates).outcomes.find? controller = some failure ↔
      LastOutcome updates controller failure := by
  rw [find?_outcomes_run, outcomes_seed, or_iff_left]
  rintro ⟨-, h⟩
  cases h

theorem mem_names_outcomes_run_seed : controller ∈ (run (empty.seed persisted running) updates).outcomes.names ↔
    Reported updates controller := by
  rw [NameMap.mem_names_iff, Option.isSome_iff_exists, Reported, ← exists_lastOf_iff]
  simp only [find?_outcomes_run_seed]
  constructor
  · rintro ⟨failure, last⟩
    exact ⟨_, last⟩
  · rintro ⟨u, last⟩
    obtain ⟨-, -, -, hu, -⟩ := id last
    cases u with
    | setVersion | build => exact hu.elim
    | setOutcome other failure =>
      cases hu
      exact ⟨failure, last⟩

theorem ofReporter_iff : OfReporter updates type ↔
    ∃ controller ∈ (run (empty.seed persisted running) updates).outcomes.names,
      type = Degraded.conditionType controller := by
  simp only [OfReporter, mem_names_outcomes_run_seed]

theorem started_iff : Started persisted running name version ↔
    (empty.seed persisted running).version? name = some version := by
  rw [version?_seed]
  constructor
  · intro h
    cases h with
    | release => rw [if_pos rfl]
    | reported other known last =>
      rw [if_neg other, known, Option.bind_some, ClusterOperatorStatus.version?_eq_some_iff.mpr last]
      rfl
    | unclaimed unreported =>
      have unknown : persisted.bind (·.version? featureGates) = none :=
        Option.bind_eq_none_iff.mpr fun status h => ClusterOperatorStatus.version?_eq_none_iff.mpr (unreported status h)
      rw [if_neg (by decide), unknown]
      rfl
  · intro h
    split at h
    · rename_i hname
      cases hname
      cases h
      exact .release
    · rename_i other
      cases hreported : persisted.bind (·.version? name) with
      | some found =>
        rw [hreported] at h
        cases h
        obtain ⟨status, hstatus, hversion⟩ := Option.bind_eq_some_iff.mp hreported
        exact .reported other hstatus (ClusterOperatorStatus.version?_eq_some_iff.mp hversion)
      | none =>
        rw [hreported] at h
        split at h
        · rename_i hname
          cases hname
          cases h
          exact .unclaimed fun status hstatus =>
            ClusterOperatorStatus.version?_eq_none_iff.mp (Option.bind_eq_none_iff.mp hreported status hstatus)
        · cases h

theorem conditions_run_of_unbuilt (unbuilt : ∀ u ∈ updates, ¬u.IsBuild) :
    (run s updates).conditions = s.conditions := by
  induction updates using List.reverseRecOn with
  | nil => rfl
  | append_singleton updates u ih =>
    rw [run_append, ← ih fun v hv => unbuilt v (by simp [hv])]
    cases u with
    | setVersion | setOutcome => rfl
    | build clock => exact absurd trivial (unbuilt (.build clock) (by simp))

theorem conditions_start : (empty.seed persisted running).conditions = takenOver persisted := conditions_seed

theorem distinct_takenOver
    (distinct : ∀ reported, persisted = some reported → Conditions.Distinct reported.conditions) :
    Conditions.Distinct (takenOver persisted) := by
  have started : (empty.seed persisted "").conditions = takenOver persisted := conditions_start
  exact started ▸ (sound_seed distinct).distinct

/-- Building starts from the conditions built last. -/
theorem conditions_run_of_lastBuilt (last : LastBuilt persisted running updates conditions) :
    (run (empty.seed persisted running) updates).conditions = conditions := by
  cases last with
  | takenOver unbuilt => rw [conditions_run_of_unbuilt unbuilt, conditions_start]
  | built split last =>
    rw [split, ← List.singleton_append, run_append, run_append, conditions_run_of_unbuilt last]
    rfl

end

end OperatorStatus

end GateOperator
