/-!
Walking a list with steps that may fail: the walk succeeds exactly when every step does, and then it
gives the results of the steps in order. Otherwise it fails with the first error.
-/

namespace GateOperator

section
variable {ε α β : Type}

theorem Except.map_eq_ok_iff {f : α → β} {x : Except ε α} {b : β} : x.map f = .ok b ↔ ∃ a, x = .ok a ∧ f a = b := by
  cases x with
  | error e => simp [Except.map]
  | ok a => simp [Except.map]

theorem Except.map_eq_error_iff {f : α → β} {x : Except ε α} {e : ε} : x.map f = .error e ↔ x = .error e := by
  cases x with
  | error e => simp [Except.map]
  | ok a => simp [Except.map]

theorem Except.mapError_eq_ok_iff {ε' : Type} {f : ε → ε'} {x : Except ε α} {a : α} :
    x.mapError f = .ok a ↔ x = .ok a := by
  cases x with
  | error e => exact ⟨nofun, nofun⟩
  | ok a' =>
    constructor
    · intro h
      cases h
      rfl
    · intro h
      cases h
      rfl

theorem Except.mapError_eq_error_iff {ε' : Type} {f : ε → ε'} {x : Except ε α} {e' : ε'} :
    x.mapError f = .error e' ↔ ∃ e, x = .error e ∧ f e = e' := by
  cases x with
  | error e =>
    constructor
    · intro h
      cases h
      exact ⟨e, rfl, rfl⟩
    · rintro ⟨_, ⟨⟩, rfl⟩
      rfl
  | ok a =>
    constructor
    · exact nofun
    · rintro ⟨_, ⟨⟩, -⟩

theorem Except.toOption_eq_some_iff {x : Except ε α} {a : α} : x.toOption = some a ↔ x = .ok a := by
  cases x with
  | error e => simp [Except.toOption]
  | ok a => simp [Except.toOption]

theorem Except.exists_eq_ok_iff {x : Except ε α} : (∃ a, x = .ok a) ↔ ∀ e, x ≠ .error e := by
  cases x with
  | error e => simp
  | ok a => simp

/-- The error that a computation ends with. -/
def Except.error? : Except ε α → Option ε
  | .error e => some e
  | .ok _ => none

theorem Except.error?_eq_some_iff {x : Except ε α} {e : ε} : Except.error? x = some e ↔ x = .error e := by
  cases x with
  | error e => simp [Except.error?]
  | ok a => simp [Except.error?]

theorem Except.bind_eq_ok_iff {x : Except ε α} {f : α → Except ε β} {b : β} :
    x >>= f = .ok b ↔ ∃ a, x = .ok a ∧ f a = .ok b := by
  cases x with
  | error e => simp [bind, Except.bind]
  | ok a => simp [bind, Except.bind]

theorem Except.bind_eq_error_iff {x : Except ε α} {f : α → Except ε β} {e : ε} :
    x >>= f = .error e ↔ x = .error e ∨ ∃ a, x = .ok a ∧ f a = .error e := by
  cases x with
  | error e => simp [bind, Except.bind]
  | ok a => simp [bind, Except.bind]

/-- Each result of a walk is that of one of its steps. -/
theorem exists_of_mem_mapM {f : α → Except ε β} {items : List α} {results : List β} {b : β}
    (h : items.mapM f = .ok results) (hb : b ∈ results) : ∃ a ∈ items, f a = .ok b := by
  induction items generalizing results with
  | nil =>
    cases h
    cases hb
  | cons a items ih =>
    rw [List.mapM_cons] at h
    obtain ⟨first, hfirst, h⟩ := Except.bind_eq_ok_iff.mp h
    obtain ⟨rest, hrest, h⟩ := Except.bind_eq_ok_iff.mp h
    cases h
    rcases List.mem_cons.mp hb with rfl | hb
    · exact ⟨a, by simp, hfirst⟩
    · obtain ⟨a', ha', h⟩ := ih hrest hb
      exact ⟨a', by simp [ha'], h⟩

/-- A walk whose steps give what a function gives, as far as they succeed, gives what the function gives. -/
theorem mapM_eq_ok_iff {f : α → Except ε β} {g : α → β} (hg : ∀ a b, f a = .ok b → b = g a) {items : List α}
    {results : List β} : items.mapM f = .ok results ↔ (∀ a ∈ items, ∃ b, f a = .ok b) ∧ results = items.map g := by
  induction items generalizing results with
  | nil => simp [pure, Except.pure, eq_comm]
  | cons a items ih =>
    rw [List.mapM_cons]
    constructor
    · intro h
      obtain ⟨b, hb, h⟩ := Except.bind_eq_ok_iff.mp h
      obtain ⟨rest, hrest, h⟩ := Except.bind_eq_ok_iff.mp h
      cases h
      obtain ⟨hsteps, rfl⟩ := ih.mp hrest
      exact ⟨List.forall_mem_cons.mpr ⟨⟨b, hb⟩, hsteps⟩, by rw [List.map_cons, hg a b hb]⟩
    · rintro ⟨hsteps, rfl⟩
      obtain ⟨⟨b, hb⟩, hsteps⟩ := List.forall_mem_cons.mp hsteps
      rw [List.map_cons, ← hg a b hb]
      exact Except.bind_eq_ok_iff.mpr ⟨b, hb, Except.bind_eq_ok_iff.mpr ⟨_, ih.mpr ⟨hsteps, rfl⟩, rfl⟩⟩

theorem mapM_eq_ok_iff_filterMap {f : α → Except ε β} {items : List α} {results : List β} :
    items.mapM f = .ok results ↔
      (∀ a ∈ items, ∃ b, f a = .ok b) ∧ results = items.filterMap fun a => (f a).toOption := by
  induction items generalizing results with
  | nil => simp [pure, Except.pure, eq_comm]
  | cons a items ih =>
    rw [List.mapM_cons, Except.bind_eq_ok_iff, List.forall_mem_cons]
    constructor
    · rintro ⟨b, hb, h⟩
      obtain ⟨rest, hrest, h⟩ := Except.bind_eq_ok_iff.mp h
      cases h
      obtain ⟨hsteps, rfl⟩ := ih.mp hrest
      exact ⟨⟨⟨b, hb⟩, hsteps⟩, by rw [List.filterMap_cons, hb]; rfl⟩
    · rintro ⟨⟨⟨b, hb⟩, hsteps⟩, rfl⟩
      refine ⟨b, hb, Except.bind_eq_ok_iff.mpr ⟨_, ih.mpr ⟨hsteps, rfl⟩, ?_⟩⟩
      rw [List.filterMap_cons, hb]
      rfl

/-- A walk that keeps each item beside its result gives the items back, each with what its step gave. -/
theorem mapM_keyed_eq_ok_iff {f : α → Except ε β} {items : List α} {results : List (α × β)} :
    (items.mapM fun a => (f a).map fun b => (a, b)) = .ok results ↔
      results.map (·.1) = items ∧ ∀ r ∈ results, f r.1 = .ok r.2 := by
  induction items generalizing results with
  | nil => cases results <;> simp [pure, Except.pure]
  | cons a items ih =>
    rw [List.mapM_cons]
    constructor
    · intro h
      obtain ⟨r, hr, h⟩ := Except.bind_eq_ok_iff.mp h
      obtain ⟨b, hb, rfl⟩ := Except.map_eq_ok_iff.mp hr
      obtain ⟨rest, hrest, h⟩ := Except.bind_eq_ok_iff.mp h
      cases h
      obtain ⟨hitems, hsteps⟩ := ih.mp hrest
      refine ⟨by simp [hitems], fun r hr => ?_⟩
      rcases List.mem_cons.mp hr with rfl | hr
      · exact hb
      · exact hsteps r hr
    · rintro ⟨hitems, hsteps⟩
      cases results with
      | nil => cases hitems
      | cons r results =>
        obtain ⟨rfl, hrest⟩ := List.cons.inj hitems
        refine Except.bind_eq_ok_iff.mpr ⟨r, Except.map_eq_ok_iff.mpr ⟨r.2, hsteps r (by simp), rfl⟩, ?_⟩
        exact Except.bind_eq_ok_iff.mpr ⟨results, ih.mpr ⟨hrest, fun r hr => hsteps r (by simp [hr])⟩, rfl⟩

/-- The walk fails where the first of its steps does. -/
theorem mapM_eq_error_iff {f : α → Except ε β} {items : List α} {e : ε} :
    items.mapM f = .error e ↔
      ∃ before a after, items = before ++ a :: after ∧ (∀ a ∈ before, ∃ b, f a = .ok b) ∧ f a = .error e := by
  induction items with
  | nil => simp [pure, Except.pure]
  | cons a items ih =>
    rw [List.mapM_cons, Except.bind_eq_error_iff]
    constructor
    · rintro (ha | ⟨b, hb, h⟩)
      · exact ⟨[], a, items, rfl, by simp, ha⟩
      · rcases Except.bind_eq_error_iff.mp h with h | ⟨rest, -, h⟩
        · obtain ⟨before, a', after, rfl, hbefore, he⟩ := ih.mp h
          exact ⟨a :: before, a', after, rfl, List.forall_mem_cons.mpr ⟨⟨b, hb⟩, hbefore⟩, he⟩
        · cases h
    · rintro ⟨before, a', after, hitems, hbefore, he⟩
      cases before with
      | nil =>
        cases hitems
        exact .inl he
      | cons x before =>
        cases hitems
        obtain ⟨⟨b, hb⟩, hbefore⟩ := List.forall_mem_cons.mp hbefore
        have hrest := ih.mpr ⟨before, a', after, rfl, hbefore, he⟩
        exact .inr ⟨b, hb, Except.bind_eq_error_iff.mpr (.inl hrest)⟩

theorem mapM_keyed_eq_error_iff {f : α → Except ε β} {items : List α} {e : ε} :
    (items.mapM fun a => (f a).map fun b => (a, b)) = .error e ↔
      ∃ before a after, items = before ++ a :: after ∧ (∀ a ∈ before, ∃ b, f a = .ok b) ∧ f a = .error e := by
  have succeeds (a : α) : (∃ r, ((f a).map fun b => (a, b)) = .ok r) ↔ ∃ b, f a = .ok b := by
    simp [Except.map_eq_ok_iff]
  simp only [mapM_eq_error_iff, Except.map_eq_error_iff, succeeds]

/-- What is built item by item fails at the first item that cannot be taken in. -/
theorem foldlM_eq_error_iff {f : β → α → Except ε β} {items : List α} {start : β} {e : ε} :
    items.foldlM f start = .error e ↔ ∃ before a after built,
      items = before ++ a :: after ∧ before.foldlM f start = .ok built ∧ f built a = .error e := by
  induction items generalizing start with
  | nil => simp [pure, Except.pure]
  | cons a items ih =>
    rw [List.foldlM_cons, Except.bind_eq_error_iff]
    constructor
    · rintro (ha | ⟨next, hnext, h⟩)
      · exact ⟨[], a, items, start, rfl, rfl, ha⟩
      · obtain ⟨before, a', after, built, rfl, hbefore, he⟩ := ih.mp h
        refine ⟨a :: before, a', after, built, rfl, ?_, he⟩
        rw [List.foldlM_cons]
        exact Except.bind_eq_ok_iff.mpr ⟨next, hnext, hbefore⟩
    · rintro ⟨before, a', after, built, hitems, hbefore, he⟩
      cases before with
      | nil =>
        cases hitems
        cases hbefore
        exact .inl he
      | cons x before =>
        cases hitems
        rw [List.foldlM_cons] at hbefore
        obtain ⟨next, hnext, hbefore⟩ := Except.bind_eq_ok_iff.mp hbefore
        exact .inr ⟨next, hnext, ih.mpr ⟨before, a', after, built, rfl, hbefore, he⟩⟩

/-- The walk gets to the end when no step fails. -/
theorem exists_mapM_keyed_eq_ok {f : α → Except ε β} {items : List α} (h : ∀ a ∈ items, ∃ b, f a = .ok b) :
    ∃ results, (items.mapM fun a => (f a).map fun b => (a, b)) = .ok results := by
  induction items with
  | nil => exact ⟨[], rfl⟩
  | cons a items ih =>
    obtain ⟨⟨b, hb⟩, hitems⟩ := List.forall_mem_cons.mp h
    obtain ⟨results, hresults⟩ := ih hitems
    obtain ⟨hkeys, hsteps⟩ := mapM_keyed_eq_ok_iff.mp hresults
    exact ⟨(a, b) :: results, mapM_keyed_eq_ok_iff.mpr ⟨by simp [hkeys], List.forall_mem_cons.mpr ⟨hb, hsteps⟩⟩⟩

end

end GateOperator
