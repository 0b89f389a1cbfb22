/-!
Lists of distinct names in code point order. Such a list is the canonical form of a finite set of
names: what it holds determines it.
-/

namespace GateOperator

/-- Each name is below the ones after it, so the list is sorted and holds no name twice. -/
abbrev Ascending (names : List String) : Prop := names.Pairwise (· < ·)

namespace Names

/-- Adds a name to an ascending list, unless it is there. -/
def insert (x : String) : List String → List String
  | [] => [x]
  | y :: names => if x < y then x :: y :: names else if x = y then y :: names else y :: insert x names

/-- The distinct names of a list, in ascending order. -/
def ofList (names : List String) : List String := names.foldr insert []

section
variable {x y : String} {names others : List String}

theorem lt_of_not_lt_of_ne (h : ¬ x < y) (hne : x ≠ y) : y < x :=
  Decidable.byContradiction fun hyx => hne (String.le_antisymm (String.not_lt.1 hyx) (String.not_lt.1 h))

@[simp] theorem mem_insert : y ∈ insert x names ↔ y = x ∨ y ∈ names := by
  fun_induction insert x names with
  | case1 => simp
  | case2 => simp
  | case3 => simp
  | case4 z names _ _ ih => simp only [List.mem_cons, ih]; constructor <;> rintro (h | h | h) <;> simp [h]

theorem ascending_insert (h : Ascending names) : Ascending (insert x names) := by
  fun_induction insert x names with
  | case1 => simp
  | case2 z names hlt =>
    refine List.pairwise_cons.2 ⟨fun w hw => ?_, h⟩
    rcases List.mem_cons.1 hw with rfl | hw
    · exact hlt
    · exact String.lt_trans hlt ((List.pairwise_cons.1 h).1 w hw)
  | case3 => exact h
  | case4 z names hlt hne ih =>
    obtain ⟨hz, hr⟩ := List.pairwise_cons.1 h
    refine List.pairwise_cons.2 ⟨fun w hw => ?_, ih hr⟩
    rcases mem_insert.1 hw with rfl | hw
    · exact lt_of_not_lt_of_ne hlt hne
    · exact hz w hw

@[simp] theorem mem_ofList : x ∈ ofList names ↔ x ∈ names := by
  induction names with
  | nil => simp [ofList]
  | cons y names ih => simp only [ofList, List.foldr_cons, mem_insert, List.mem_cons] at *; rw [ih]

theorem ascending_ofList : Ascending (ofList names) := by
  induction names with
  | nil => simp [ofList]
  | cons y names ih => exact ascending_insert ih

/-- Ascending lists with the same members are the same list. -/
theorem eq_of_mem_iff : ∀ {a b : List String}, Ascending a → Ascending b → (∀ x, x ∈ a ↔ x ∈ b) → a = b
  | [], [], _, _, _ => rfl
  | [], y :: b, _, _, h => absurd ((h y).2 (by simp)) (by simp)
  | x :: a, [], _, _, h => absurd ((h x).1 (by simp)) (by simp)
  | x :: a, y :: b, ha, hb, h => by
    obtain ⟨hxa, ha'⟩ := List.pairwise_cons.1 ha
    obtain ⟨hyb, hb'⟩ := List.pairwise_cons.1 hb
    have hxy : x = y := by
      rcases List.mem_cons.1 ((h x).1 (by simp)) with hx | hx
      · exact hx
      · rcases List.mem_cons.1 ((h y).2 (by simp)) with hy | hy
        · exact hy.symm
        · exact absurd (String.lt_trans (hyb x hx) (hxa y hy)) (String.lt_irrefl y)
    subst hxy
    have : a = b := eq_of_mem_iff ha' hb' fun z => by
      constructor
      · intro hz
        rcases List.mem_cons.1 ((h z).1 (by simp [hz])) with rfl | hz'
        · exact absurd (hxa z hz) (String.lt_irrefl z)
        · exact hz'
      · intro hz
        rcases List.mem_cons.1 ((h z).2 (by simp [hz])) with rfl | hz'
        · exact absurd (hyb z hz) (String.lt_irrefl z)
        · exact hz'
    rw [this]

theorem ofList_congr (h : ∀ x, x ∈ names ↔ x ∈ others) : ofList names = ofList others :=
  eq_of_mem_iff ascending_ofList ascending_ofList fun x => by rw [mem_ofList, mem_ofList, h]

theorem nodup_of_ascending (h : Ascending names) : names.Nodup :=
  List.Pairwise.imp (fun {a b} (hab : a < b) (heq : a = b) => String.lt_irrefl b (heq ▸ hab)) h

end

/-- The least name of a kind. -/
def Least (P : String → Prop) (x : String) : Prop := P x ∧ ∀ y, P y → x ≤ y

/-- The name stands in the list a second time, and none does before that. -/
def FirstRepeated (names : List String) (x : String) : Prop :=
  ∃ before after, names = before ++ x :: after ∧ before.Nodup ∧ x ∈ before

section
variable {α κ : Type} [LT κ] {key : α → κ} {items before after : List α} {a b : α} {P : α → Prop}

/-- Of items in strictly ascending order of a key, those before one of them are those below it. -/
theorem mem_before_iff (asymm : ∀ {x y : κ}, x < y → ¬y < x) (h : (items.map key).Pairwise (· < ·))
    (split : items = before ++ a :: after) : b ∈ before ↔ b ∈ items ∧ key b < key a := by
  subst split
  obtain ⟨-, hafter, hbefore⟩ := List.pairwise_append.mp (List.pairwise_map.mp h)
  constructor
  · exact fun hb => ⟨by simp [hb], hbefore b hb a (by simp)⟩
  · rintro ⟨hb, hlt⟩
    rcases List.mem_append.mp hb with hb | hb
    · exact hb
    · rcases List.mem_cons.mp hb with rfl | hb
      · exact absurd hlt (asymm hlt)
      · exact absurd hlt (asymm ((List.pairwise_cons.mp hafter).1 b hb))

/-- The first of a kind is the one below which there is none. -/
theorem first_iff (asymm : ∀ {x y : κ}, x < y → ¬y < x) (h : (items.map key).Pairwise (· < ·)) :
    (∃ before after, items = before ++ a :: after ∧ ∀ b ∈ before, ¬P b) ↔
      a ∈ items ∧ ∀ b ∈ items, key b < key a → ¬P b := by
  constructor
  · rintro ⟨before, after, split, none_before⟩
    exact ⟨by simp [split], fun b hb hlt => none_before b ((mem_before_iff asymm h split).mpr ⟨hb, hlt⟩)⟩
  · rintro ⟨ha, none_below⟩
    obtain ⟨before, after, split⟩ := List.append_of_mem ha
    refine ⟨before, after, split, fun b hb => ?_⟩
    obtain ⟨hb, hlt⟩ := (mem_before_iff asymm h split).mp hb
    exact none_below b hb hlt

end

/-- Of items in ascending order of name, the first of a kind is the one with the least name. -/
theorem first_iff_least {α : Type} (name : α → String) {items : List α} {a : α} {P : α → Prop}
    (h : Ascending (items.map name)) :
    (∃ before after, items = before ++ a :: after ∧ ∀ b ∈ before, ¬P b) ↔
      a ∈ items ∧ ∀ b ∈ items, P b → name a ≤ name b := by
  rw [first_iff String.lt_asymm h]
  refine and_congr_right fun _ => forall_congr' fun b => forall_congr' fun _ => ?_
  rw [← String.not_lt, imp_not_comm]

/-- The least name that two lists share. -/
def leastCommon? (a b : List String) : Option String := (ofList a).find? fun x => b.contains x

/-- The first name of a list that stands in it a second time. -/
def firstRepeated? : List String → Option String := go []
where
  /-- Walks the list with the names seen so far. -/
  go (seen : List String) : List String → Option String
    | [] => none
    | x :: names => if seen.contains x then some x else go (x :: seen) names

section
variable {names a b a' b' : List String}

theorem contains_congr (h : ∀ x, x ∈ a ↔ x ∈ b) (x : String) : a.contains x = b.contains x := by
  rw [Bool.eq_iff_iff, List.contains_iff_mem, List.contains_iff_mem, h]

theorem leastCommon?_eq_none_iff : leastCommon? a b = none ↔ ∀ x ∈ a, x ∉ b := by
  simp [leastCommon?, List.find?_eq_none]

theorem leastCommon?_eq_some_iff {x : String} :
    leastCommon? a b = some x ↔ Least (fun name => name ∈ a ∧ name ∈ b) x := by
  have sorted : Ascending ((ofList a).map id) := by
    rw [List.map_id]
    exact ascending_ofList
  have first := first_iff_least id (a := x) (P := (· ∈ b)) sorted
  simp only [mem_ofList, id] at first
  simp only [leastCommon?, List.find?_eq_some_iff_append, List.contains_iff_mem, Bool.not_eq_true', Least,
    ← Bool.not_eq_true, first, and_imp]
  constructor
  · rintro ⟨hb, ha, hleast⟩
    exact ⟨⟨ha, hb⟩, hleast⟩
  · rintro ⟨⟨ha, hb⟩, hleast⟩
    exact ⟨hb, ha, hleast⟩

/-- What two lists share does not depend on the order in which they hold it. -/
theorem leastCommon?_congr (ha : ∀ x, x ∈ a ↔ x ∈ a') (hb : ∀ x, x ∈ b ↔ x ∈ b') :
    leastCommon? a b = leastCommon? a' b' := by
  rw [leastCommon?, leastCommon?, ofList_congr ha, funext (contains_congr hb)]

theorem firstRepeated?_go_eq_none_iff {seen : List String} :
    firstRepeated?.go seen names = none ↔ names.Nodup ∧ ∀ x ∈ names, x ∉ seen := by
  induction names generalizing seen with
  | nil => simp [firstRepeated?.go]
  | cons x names ih =>
    rw [firstRepeated?.go, List.nodup_cons]
    by_cases hx : x ∈ seen
    · simp [hx]
    · rw [if_neg (by simpa using hx), ih]
      constructor
      · rintro ⟨hnodup, hseen⟩
        refine ⟨⟨fun hmem => hseen x hmem (by simp), hnodup⟩, fun y hy => ?_⟩
        rcases List.mem_cons.1 hy with rfl | hy
        · exact hx
        · exact fun hmem => hseen y hy (by simp [hmem])
      · rintro ⟨⟨hnot, hnodup⟩, hseen⟩
        refine ⟨hnodup, fun y hy hmem => ?_⟩
        rcases List.mem_cons.1 hmem with rfl | hmem
        · exact hnot hy
        · exact hseen y (by simp [hy]) hmem

theorem firstRepeated?_eq_none_iff : firstRepeated? names = none ↔ names.Nodup := by
  simp [firstRepeated?, firstRepeated?_go_eq_none_iff]

theorem firstRepeated?_go_eq_some_iff {seen : List String} {x : String} :
    firstRepeated?.go seen names = some x ↔ ∃ before after, names = before ++ x :: after ∧
      before.Nodup ∧ (∀ y ∈ before, y ∉ seen) ∧ (x ∈ before ∨ x ∈ seen) := by
  induction names generalizing seen with
  | nil => simp [firstRepeated?.go]
  | cons y names ih =>
    rw [firstRepeated?.go]
    by_cases hy : y ∈ seen
    · rw [if_pos (by simpa using hy), Option.some.injEq]
      constructor
      · rintro rfl
        exact ⟨[], names, rfl, List.nodup_nil, by simp, .inr hy⟩
      · rintro ⟨before, after, split, -, hseen, -⟩
        rcases List.append_eq_cons_iff.mp split.symm with ⟨rfl, h⟩ | ⟨before, rfl, -⟩
        · exact (List.cons.inj h).1.symm
        · exact absurd hy (hseen y (by simp))
    · rw [if_neg (by simpa using hy), ih]
      constructor
      · rintro ⟨before, after, rfl, hnodup, hseen, hx⟩
        refine ⟨y :: before, after, rfl, ?_, ?_, ?_⟩
        · exact List.nodup_cons.mpr ⟨fun hmem => hseen y hmem (by simp), hnodup⟩
        · intro z hz
          rcases List.mem_cons.mp hz with rfl | hz
          · exact hy
          · exact fun hmem => hseen z hz (by simp [hmem])
        · rcases hx with hx | hx
          · exact .inl (by simp [hx])
          · rcases List.mem_cons.mp hx with rfl | hx
            · exact .inl (by simp)
            · exact .inr hx
      · rintro ⟨before, after, split, hnodup, hseen, hx⟩
        rcases List.append_eq_cons_iff.mp split.symm with ⟨rfl, h⟩ | ⟨before, rfl, rfl⟩
        · obtain ⟨rfl, rfl⟩ := List.cons.inj h
          simp [hy] at hx
        · obtain ⟨hnot, hnodup⟩ := List.nodup_cons.mp hnodup
          refine ⟨before, after, rfl, hnodup, fun z hz hmem => ?_, ?_⟩
          · rcases List.mem_cons.mp hmem with rfl | hmem
            · exact hnot hz
            · exact hseen z (by simp [hz]) hmem
          · simpa [or_assoc, or_comm, or_left_comm] using hx

theorem firstRepeated?_eq_some_iff {x : String} : firstRepeated? names = some x ↔ FirstRepeated names x := by
  simp [firstRepeated?, firstRepeated?_go_eq_some_iff, FirstRepeated]

end

end Names

end GateOperator
