import GateOperator.Data.Fields

/-!
Reading an object from a record. When no declared field stands in the record twice, each field is read from
what the record has under its name; fields that are not declared have no part in it.
-/

namespace GateOperator

namespace Fields

variable {α β γ : Type} {dialect : Dialect} {byName : Bool} {declared : List String} {name : String}
  {given : List (String × Value)} {fields : Fields} {a : α} {f : Value → Option α}

/-- No declared field stands in the record twice. -/
def Distinct (declared : List String) (given : List (String × Value)) : Prop :=
  ((given.map (·.1)).filter declared.contains).Nodup

theorem distinct_nil : Distinct declared [] := List.nodup_nil

/-- What has to name its fields is read from JSON only when that is a record. -/
theorem record_of_read {v : Value} (h : read .json true declared v = some fields) : ∃ given, v = .record given := by
  cases v with
  | record given => exact ⟨given, rfl⟩
  | _ => cases h

theorem read_record_iff : read dialect byName declared (.record given) = some fields ↔
    Distinct declared given ∧ fields = ⟨false, given.filter fun field => declared.contains field.1⟩ := by
  have names : (given.filter fun field => declared.contains field.1).map (·.1) =
      (given.map (·.1)).filter declared.contains := by
    rw [List.filter_map]
    rfl
  rw [Distinct, ← names, ← Names.firstRepeated?_eq_none_iff]
  show (if (Names.firstRepeated? ((given.filter fun field => declared.contains field.1).map (·.1))).isSome then none
    else some _) = _ ↔ _
  cases Names.firstRepeated? ((given.filter fun field => declared.contains field.1).map (·.1)) with
  | none => simp [eq_comm]
  | some twice => simp

theorem exists_read_record (distinct : Distinct declared given) :
    ∃ fields, read dialect byName declared (.record given) = some fields :=
  ⟨_, read_record_iff.mpr ⟨distinct, rfl⟩⟩

theorem get?_record (h : read dialect byName declared (.record given) = some fields) (hname : name ∈ declared) :
    fields.get? name = given.lookup name := by
  obtain ⟨-, rfl⟩ := read_record_iff.mp h
  rw [get?, NameMap.lookup_filter, if_pos (List.contains_iff_mem.mpr hname)]

theorem required_record (h : read dialect byName declared (.record given) = some fields) (hname : name ∈ declared) :
    fields.required name f = (given.lookup name).bind f := by
  rw [required, get?_record h hname]
  rfl

theorem withDefault_record (h : read dialect byName declared (.record given) = some fields)
    (hname : name ∈ declared) : fields.withDefault name a f = (given.lookup name).elim (some a) f := by
  rw [withDefault, get?_record h hname]
  cases given.lookup name <;> rfl

/-- For a field that may be null or left out, the one is as good as the other. -/
theorem optional_record (h : read dialect byName declared (.record given) = some fields) (hname : name ∈ declared) :
    fields.optional name f = nullable f ((given.lookup name).getD .null) := by
  rw [optional, withDefault_record h hname]
  cases given.lookup name <;> rfl

/-- An object of two fields with defaults is read when both of them are. -/
theorem withDefault_pair_iff {first second : String} {b : β} {g : Value → Option β} {k : α → β → γ} {c : γ} :
    ((read dialect byName [first, second] (.record given)).bind fun fields =>
      (fields.withDefault first a f).bind fun a => (fields.withDefault second b g).bind fun b => some (k a b)) =
        some c ↔
      Distinct [first, second] given ∧ ∃ a' b', (given.lookup first).elim (some a) f = some a' ∧
        (given.lookup second).elim (some b) g = some b' ∧ k a' b' = c := by
  constructor
  · intro h
    obtain ⟨fields, hfields, h⟩ := Option.bind_eq_some_iff.mp h
    rw [withDefault_record hfields (by simp), withDefault_record hfields (by simp)] at h
    obtain ⟨a', ha, h⟩ := Option.bind_eq_some_iff.mp h
    obtain ⟨b', hb, h⟩ := Option.bind_eq_some_iff.mp h
    exact ⟨(read_record_iff.mp hfields).1, a', b', ha, hb, Option.some.inj h⟩
  · rintro ⟨distinct, a', b', ha, hb, rfl⟩
    obtain ⟨fields, hfields⟩ := exists_read_record distinct
    rw [hfields, Option.bind_some, withDefault_record hfields (by simp), withDefault_record hfields (by simp), ha,
      hb]
    rfl

end Fields

namespace Value

variable {α : Type} {dialect : Dialect} {read : Value → Option α} {write : α → Value}

/-- Items that are read back one by one are read back as a list. -/
theorem listOf?_map (h : ∀ x, read (write x) = some x) (items : List α) :
    listOf? dialect read (.list (items.map write)) = some items := by
  show (items.map write).mapM read = some items
  induction items with
  | nil => rfl
  | cons x items ih => rw [List.map_cons, List.mapM_cons, h, ih]; rfl

end Value

end GateOperator
