import GateOperator.Version.Precedence

/-!
The precedence of semantic versions as a relation. The numbers decide first, then a pre-release is below
its release, then the identifiers decide one by one. Comparing two versions finds just this relation, and
versions compare as equal when they differ in build metadata at most.
-/

namespace GateOperator

/-- Numbers are below greater numbers and below all words, words below later words. -/
inductive Identifier.Below : Identifier → Identifier → Prop where
  | numbers {m n : Nat} (h : m < n) : Below (numeric m) (numeric n)
  | mixed {m : Nat} {t : String} : Below (numeric m) (alphanumeric t)
  | words {s t : String} (h : s < t) : Below (alphanumeric s) (alphanumeric t)

namespace Identifier

variable {a b c : Identifier}

theorem Below.trans (hab : a.Below b) (hbc : b.Below c) : a.Below c := by
  cases hab with
  | numbers h =>
    cases hbc with
    | numbers h' => exact .numbers (Nat.lt_trans h h')
    | mixed => exact .mixed
  | mixed =>
    cases hbc with
    | words => exact .mixed
  | words h =>
    cases hbc with
    | words h' => exact .words (String.lt_trans h h')

theorem order_eq_lt_iff : a.order b = .lt ↔ a.Below b := by
  constructor
  · intro h
    cases a <;> cases b
    case numeric.numeric m n => exact .numbers (Nat.compare_eq_lt.mp h)
    case numeric.alphanumeric => exact .mixed
    case alphanumeric.numeric => cases h
    case alphanumeric.alphanumeric s t => exact .words (compareOfLessAndEq_eq_lt.mp h)
  · rintro (h | _ | h)
    · exact Nat.compare_eq_lt.mpr h
    · rfl
    · exact compareOfLessAndEq_eq_lt.mpr h

theorem order_eq_eq_iff : a.order b = .eq ↔ a = b := by
  cases a <;> cases b <;> simp [order]

theorem order_swap : (a.order b).swap = b.order a := by
  cases a <;> cases b <;> simp only [order, Ordering.swap_lt, Ordering.swap_gt]
  · exact Std.OrientedOrd.eq_swap.symm
  · exact Std.OrientedOrd.eq_swap.symm

end Identifier

namespace Version

/-- The identifiers of a pre-release are below those of another, or the other is no pre-release. -/
def PreReleaseBelow (as bs : List Identifier) : Prop := as ≠ [] ∧ (bs = [] ∨ List.Lex Identifier.Below as bs)

/-- The precedence of the first version is lower. -/
inductive Below (a b : Version) : Prop where
  | major (h : a.major < b.major)
  | minor (same : a.major = b.major) (h : a.minor < b.minor)
  | patch (same : a.major = b.major ∧ a.minor = b.minor) (h : a.patch < b.patch)
  | preRelease (same : a.major = b.major ∧ a.minor = b.minor ∧ a.patch = b.patch)
      (h : PreReleaseBelow a.preRelease b.preRelease)

/-- The versions differ in build metadata at most. -/
def SamePrecedence (a b : Version) : Prop :=
  a.major = b.major ∧ a.minor = b.minor ∧ a.patch = b.patch ∧ a.preRelease = b.preRelease

/-- The precedence of the first version is at least that of the second. -/
def AtLeast (a b : Version) : Prop := b.Below a ∨ a.SamePrecedence b

section
variable {as bs cs : List Identifier} {a b c : Version}

theorem identifiersOrder_eq_lt_iff : identifiersOrder as bs = .lt ↔ List.Lex Identifier.Below as bs := by
  induction as generalizing bs with
  | nil => cases bs <;> simp [identifiersOrder]
  | cons a as ih =>
    cases bs with
    | nil => simp [identifiersOrder]
    | cons b bs =>
      rw [identifiersOrder, Ordering.then_eq_lt, ih, Identifier.order_eq_lt_iff, Identifier.order_eq_eq_iff,
        List.cons_lex_cons_iff]

theorem identifiersOrder_eq_eq_iff : identifiersOrder as bs = .eq ↔ as = bs := by
  induction as generalizing bs with
  | nil => cases bs <;> simp [identifiersOrder]
  | cons a as ih => cases bs <;> simp [identifiersOrder, Identifier.order_eq_eq_iff, ih]

theorem identifiersOrder_swap : (identifiersOrder as bs).swap = identifiersOrder bs as := by
  induction as generalizing bs with
  | nil => cases bs <;> rfl
  | cons a as ih =>
    cases bs with
    | nil => rfl
    | cons b bs => rw [identifiersOrder, identifiersOrder, Ordering.swap_then, Identifier.order_swap, ih]

theorem preReleaseOrder_eq_lt_iff : preReleaseOrder as bs = .lt ↔ PreReleaseBelow as bs := by
  cases as <;> cases bs <;> simp [preReleaseOrder, PreReleaseBelow, identifiersOrder_eq_lt_iff]

theorem preReleaseOrder_eq_eq_iff : preReleaseOrder as bs = .eq ↔ as = bs := by
  cases as <;> cases bs <;> simp [preReleaseOrder, identifiersOrder_eq_eq_iff]

theorem preReleaseOrder_swap : (preReleaseOrder as bs).swap = preReleaseOrder bs as := by
  cases as <;> cases bs <;> simp [preReleaseOrder, identifiersOrder_swap]

theorem order_eq_lt_iff : a.order b = .lt ↔ a.Below b := by
  simp only [order, Ordering.then_eq_lt, Nat.compare_eq_lt, Nat.compare_eq_eq, preReleaseOrder_eq_lt_iff]
  constructor
  · rintro (h | ⟨h₁, h | ⟨h₂, h | ⟨h₃, h⟩⟩⟩)
    · exact .major h
    · exact .minor h₁ h
    · exact .patch ⟨h₁, h₂⟩ h
    · exact .preRelease ⟨h₁, h₂, h₃⟩ h
  · rintro (h | ⟨h₁, h⟩ | ⟨⟨h₁, h₂⟩, h⟩ | ⟨⟨h₁, h₂, h₃⟩, h⟩)
    · exact .inl h
    · exact .inr ⟨h₁, .inl h⟩
    · exact .inr ⟨h₁, .inr ⟨h₂, .inl h⟩⟩
    · exact .inr ⟨h₁, .inr ⟨h₂, .inr ⟨h₃, h⟩⟩⟩

theorem order_eq_eq_iff : a.order b = .eq ↔ a.SamePrecedence b := by
  simp only [order, SamePrecedence, Ordering.then_eq_eq, Nat.compare_eq_eq, preReleaseOrder_eq_eq_iff]

theorem order_swap : (a.order b).swap = b.order a := by
  simp only [order, Ordering.swap_then, Nat.compare_swap, preReleaseOrder_swap]

/-- A version reaches a required one exactly when its precedence is at least that of the required one. -/
theorem reaches_iff : a.reaches b = true ↔ a.AtLeast b := by
  rw [reaches, bne_iff_ne, Ne, Ordering.ne_lt_iff_isGE, Ordering.isGE_iff_eq_gt_or_eq_eq, AtLeast,
    ← order_eq_lt_iff, ← order_eq_eq_iff, ← order_swap (a := a), Ordering.swap_eq_lt]

/-! ### A preorder -/

theorem PreReleaseBelow.trans (hab : PreReleaseBelow as bs) (hbc : PreReleaseBelow bs cs) : PreReleaseBelow as cs := by
  obtain ⟨has, hbs | hlex⟩ := hab
  · exact absurd hbs hbc.1
  · obtain ⟨-, hcs | hlex'⟩ := hbc
    · exact ⟨has, .inl hcs⟩
    · exact ⟨has, .inr (List.lex_trans Identifier.Below.trans hlex hlex')⟩

theorem below_iff :
    a.Below b ↔
      (a.major < b.major ∨
        a.major = b.major ∧ (a.minor < b.minor ∨ a.minor = b.minor ∧ a.patch < b.patch)) ∨
      (a.major = b.major ∧ a.minor = b.minor ∧ a.patch = b.patch) ∧ PreReleaseBelow a.preRelease b.preRelease := by
  constructor
  · rintro (h | ⟨same, h⟩ | ⟨same, h⟩ | ⟨same, h⟩)
    · exact .inl (.inl h)
    · exact .inl (.inr ⟨same, .inl h⟩)
    · exact .inl (.inr ⟨same.1, .inr ⟨same.2, h⟩⟩)
    · exact .inr ⟨same, h⟩
  · rintro ((h | ⟨same, h | ⟨same', h⟩⟩) | ⟨same, h⟩)
    · exact .major h
    · exact .minor same h
    · exact .patch ⟨same, same'⟩ h
    · exact .preRelease same h

theorem Below.trans (hab : a.Below b) (hbc : b.Below c) : a.Below c := by
  rw [below_iff] at hab hbc ⊢
  rcases hab with hab | ⟨hab, hpre⟩
  · rcases hbc with hbc | ⟨hbc, -⟩
    · exact .inl (by omega)
    · exact .inl (by omega)
  · rcases hbc with hbc | ⟨hbc, hpre'⟩
    · exact .inl (by omega)
    · exact .inr ⟨by omega, hpre.trans hpre'⟩

theorem SamePrecedence.below_iff_left (h : a.SamePrecedence b) : a.Below c ↔ b.Below c := by
  obtain ⟨hmajor, hminor, hpatch, hpre⟩ := h
  rw [below_iff, below_iff, hmajor, hminor, hpatch, hpre]

theorem SamePrecedence.below_iff_right (h : a.SamePrecedence b) : c.Below a ↔ c.Below b := by
  obtain ⟨hmajor, hminor, hpatch, hpre⟩ := h
  rw [below_iff, below_iff, hmajor, hminor, hpatch, hpre]

theorem SamePrecedence.trans (hab : a.SamePrecedence b) (hbc : b.SamePrecedence c) : a.SamePrecedence c :=
  ⟨hab.1.trans hbc.1, hab.2.1.trans hbc.2.1, hab.2.2.1.trans hbc.2.2.1, hab.2.2.2.trans hbc.2.2.2⟩

theorem AtLeast.trans (hab : a.AtLeast b) (hbc : b.AtLeast c) : a.AtLeast c := by
  rcases hab with hab | hab
  · rcases hbc with hbc | hbc
    · exact .inl (hbc.trans hab)
    · exact .inl (hbc.below_iff_left.mp hab)
  · rcases hbc with hbc | hbc
    · exact .inl (hab.below_iff_right.mpr hbc)
    · exact .inr (hab.trans hbc)

/-- Build metadata take no part. -/
theorem SamePrecedence.reaches_eq (h : a.SamePrecedence b) : a.reaches c = b.reaches c := by
  obtain ⟨hmajor, hminor, hpatch, hpre⟩ := h
  rw [reaches, reaches, order, order, hmajor, hminor, hpatch, hpre]

end

end Version

end GateOperator
