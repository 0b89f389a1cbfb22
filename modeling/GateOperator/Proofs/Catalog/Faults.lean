import GateOperator.Proofs.Catalog.Build

/-!
Which fault is reported. A policy is looked through in a fixed order, and the first fault of it counts; of the
registrations the first one counts that cannot be taken in. Main statement: registrations make a catalog when
each policy is well formed and no name is taken twice, and otherwise the first fault in this order is the error.
-/

namespace GateOperator

/-- What is wrong with a requirement of a gate. A component that is not named counts before the version. -/
inductive Requirement.Fault (gate : String) (r : Requirement) : PolicyFault → Prop where
  | missing (unnamed : r.component = "") : Fault gate r (.missingComponent gate)
  | malformed {reason : Version.ParseError} (named : r.component ≠ "")
      (unparsed : Version.parse r.version = .error reason) : Fault gate r (.malformedVersion gate r reason)

namespace Policy

/-- The first fault of a policy: a repeated gate of the first list, then one of the second list, then a gate in
    both, then a requirement, in the order of declaration. -/
inductive FirstFault (p : Policy) : PolicyFault → Prop where
  | enabled {gate : String} (repeated : Names.FirstRepeated p.enabledNames gate) :
      FirstFault p (.repeated gate .enabled)
  | disabled {gate : String} (enabled : p.enabledNames.Nodup) (repeated : Names.FirstRepeated p.disabledNames gate) :
      FirstFault p (.repeated gate .disabled)
  | conflicting {gate : String} (enabled : p.enabledNames.Nodup) (disabled : p.disabledNames.Nodup)
      (least : Names.Least (fun name => name ∈ p.enabledNames ∧ name ∈ p.disabledNames) gate) :
      FirstFault p (.conflicting gate)
  | requirement {before after : List Gate} {g : Gate} {earlier later : List Requirement} {r : Requirement}
      {fault : PolicyFault} (enabled : p.enabledNames.Nodup) (disabled : p.disabledNames.Nodup)
      (disjoint : ∀ name ∈ p.enabledNames, name ∉ p.disabledNames)
      (gates : p.enabled ++ p.disabled = before ++ g :: after)
      (sound : ∀ g' ∈ before, ∀ r' ∈ g'.requirements, r'.WellFormed)
      (requirements : g.requirements = earlier ++ r :: later) (passed : ∀ r' ∈ earlier, r'.WellFormed)
      (faulty : r.Fault g.name fault) : FirstFault p fault

section
variable {p : Policy} {g : Gate} {r : Requirement} {gate : String} {fault : PolicyFault}

theorem requirementFault?_eq_some_iff : requirementFault? gate r = some fault ↔ r.Fault gate fault := by
  unfold requirementFault?
  constructor
  · intro h
    split at h
    · rename_i unnamed
      cases h
      exact .missing unnamed
    · rename_i named
      split at h
      · rename_i unparsed
        cases h
        exact .malformed named unparsed
      · cases h
  · intro h
    cases h with
    | missing unnamed => rw [if_pos unnamed]
    | malformed named unparsed => simp [named, unparsed]

theorem gateFault?_eq_some_iff :
    gateFault? g = some fault ↔ ∃ earlier r later, g.requirements = earlier ++ r :: later ∧
      (∀ r' ∈ earlier, r'.WellFormed) ∧ r.Fault g.name fault := by
  simp only [gateFault?, List.findSome?_eq_some_iff, requirementFault?_eq_none_iff, requirementFault?_eq_some_iff,
    and_comm]

theorem fault?_eq_some_iff : p.fault? = some fault ↔ p.FirstFault fault := by
  simp only [fault?, Option.or_eq_some_iff, Option.map_eq_some_iff, Option.map_eq_none_iff,
    Names.firstRepeated?_eq_some_iff, Names.firstRepeated?_eq_none_iff, Names.leastCommon?_eq_some_iff,
    Names.leastCommon?_eq_none_iff, List.findSome?_eq_some_iff, gateFault?_eq_none_iff, gateFault?_eq_some_iff]
  constructor
  · rintro (⟨gate, h, rfl⟩ | ⟨enabled, ⟨gate, h, rfl⟩ | ⟨disabled, ⟨gate, h, rfl⟩ | ⟨disjoint, hgates⟩⟩⟩)
    · exact .enabled h
    · exact .disabled enabled h
    · exact .conflicting enabled disabled h
    · obtain ⟨before, g, after, gates, ⟨earlier, r, later, requirements, passed, faulty⟩, sound⟩ := hgates
      exact .requirement enabled disabled disjoint gates sound requirements passed faulty
  · intro h
    cases h with
    | enabled h => exact .inl ⟨_, h, rfl⟩
    | disabled enabled h => exact .inr ⟨enabled, .inl ⟨_, h, rfl⟩⟩
    | conflicting enabled disabled h => exact .inr ⟨enabled, .inr ⟨disabled, .inl ⟨_, h, rfl⟩⟩⟩
    | requirement enabled disabled disjoint gates sound requirements passed faulty =>
      refine .inr ⟨enabled, .inr ⟨disabled, .inr ⟨disjoint, ?_⟩⟩⟩
      exact ⟨_, _, _, gates, ⟨_, _, _, requirements, passed, faulty⟩, sound⟩

theorem wellFormed_iff_forall_not_firstFault : p.WellFormed ↔ ∀ fault, ¬p.FirstFault fault := by
  rw [← fault?_eq_none_iff, Option.eq_none_iff_forall_ne_some]
  simp only [ne_eq, fault?_eq_some_iff]

end

end Policy

namespace Catalog

/-- All policies are well formed, and no name is taken twice. -/
structure Acceptable (registrations : List Registration) : Prop where
  wellFormed : ∀ r ∈ registrations, r.2.WellFormed
  distinct : (registrations.map (·.1)).Nodup

/-- Why a registration cannot be taken in after others. A fault of its policy counts before its name. -/
inductive Refused (accepted : List Registration) (r : Registration) : CatalogError → Prop where
  | policy {fault : PolicyFault} (first : r.2.FirstFault fault) : Refused accepted r (.policy r.1 fault)
  | taken (wellFormed : r.2.WellFormed) (taken : r.1 ∈ accepted.map (·.1)) :
      Refused accepted r (.repeatedFeatureSet r.1)

section
variable {c : Catalog} {r : Registration} {registrations : List Registration} {e : CatalogError}

theorem forall_not_refused_iff {accepted : List Registration} :
    (∀ e, ¬Refused accepted r e) ↔ r.2.WellFormed ∧ r.1 ∉ accepted.map (·.1) := by
  rw [Policy.wellFormed_iff_forall_not_firstFault]
  constructor
  · intro passed
    have sound : ∀ fault, ¬r.2.FirstFault fault := fun fault first => passed _ (.policy first)
    exact ⟨sound, fun taken => passed _ (.taken (Policy.wellFormed_iff_forall_not_firstFault.mpr sound) taken)⟩
  · rintro ⟨sound, free⟩ e h
    cases h with
    | policy first => exact sound _ first
    | taken _ taken => exact free taken

/-- Registrations are acceptable as long as the next one can be taken in. -/
theorem acceptable_concat_iff :
    Acceptable (registrations ++ [r]) ↔ Acceptable registrations ∧ ∀ e, ¬Refused registrations r e := by
  rw [forall_not_refused_iff]
  constructor
  · rintro ⟨wellFormed, distinct⟩
    rw [List.map_append, List.map_singleton, List.nodup_append] at distinct
    obtain ⟨distinct, -, apart⟩ := distinct
    exact ⟨⟨fun r hr => wellFormed r (by simp [hr]), distinct⟩, wellFormed r (by simp),
      fun taken => apart _ taken _ (List.mem_singleton.mpr rfl) rfl⟩
  · rintro ⟨⟨wellFormed, distinct⟩, sound, free⟩
    constructor
    case wellFormed => exact List.forall_mem_append.mpr ⟨wellFormed, List.forall_mem_singleton.mpr sound⟩
    case distinct =>
      rw [List.map_append, List.map_singleton, List.nodup_append]
      refine ⟨distinct, List.nodup_singleton _, fun taken htaken name hname => ?_⟩
      rw [List.mem_singleton.mp hname]
      exact fun heq => free (heq ▸ htaken)

theorem register_eq_error_iff :
    c.register r = .error e ↔ (∃ fault, r.2.FirstFault fault ∧ e = .policy r.1 fault) ∨
      r.2.WellFormed ∧ (∃ policy, c.policy? r.1 = some policy) ∧ e = .repeatedFeatureSet r.1 := by
  have taken_iff : c.featureSets.contains r.1 = true ↔ ∃ policy, c.policy? r.1 = some policy :=
    Option.isSome_iff_exists
  rw [register]
  constructor
  · intro h
    split at h
    · rename_i fault hfault
      cases h
      exact .inl ⟨fault, Policy.fault?_eq_some_iff.mp hfault, rfl⟩
    · rename_i hfault
      split at h
      · rename_i taken
        cases h
        exact .inr ⟨Policy.fault?_eq_none_iff.mp hfault, taken_iff.mp taken, rfl⟩
      · cases h
  · rintro (⟨fault, first, rfl⟩ | ⟨wellFormed, taken, rfl⟩)
    · rw [Policy.fault?_eq_some_iff.mpr first]
    · rw [Policy.fault?_eq_none_iff.mpr wellFormed]
      exact if_pos (taken_iff.mpr taken)

theorem register_eq_error_iff_of_build (built : build registrations = .ok c) :
    c.register r = .error e ↔ Refused registrations r e := by
  have taken : (∃ policy, c.policy? r.1 = some policy) ↔ r.1 ∈ registrations.map (·.1) := by
    simp only [policy?_eq_some_iff_of_build built, List.mem_map, Prod.exists, exists_and_right, exists_eq_right]
  rw [register_eq_error_iff, taken]
  constructor
  · rintro (⟨fault, first, rfl⟩ | ⟨wellFormed, taken, rfl⟩)
    · exact .policy first
    · exact .taken wellFormed taken
  · intro h
    cases h with
    | policy first => exact .inl ⟨_, first, rfl⟩
    | taken wellFormed taken => exact .inr ⟨wellFormed, taken, rfl⟩

theorem exists_build_iff_acceptable : (∃ c, build registrations = .ok c) ↔ Acceptable registrations := by
  simp only [build_eq_ok_iff]
  constructor
  · rintro ⟨c, wellFormed, distinct, -⟩
    exact ⟨wellFormed, distinct⟩
  · rintro ⟨wellFormed, distinct⟩
    exact ⟨_, wellFormed, distinct, rfl⟩

/-- The error is that of the first registration that cannot be taken in after those before it. -/
theorem build_eq_error_iff :
    build registrations = .error e ↔ ∃ before r after, registrations = before ++ r :: after ∧
      Acceptable before ∧ Refused before r e := by
  rw [build, foldlM_eq_error_iff]
  constructor
  · rintro ⟨before, r, after, c, split, built, h⟩
    have built : build before = .ok c := built
    exact ⟨before, r, after, split, exists_build_iff_acceptable.mp ⟨c, built⟩,
      (register_eq_error_iff_of_build built).mp h⟩
  · rintro ⟨before, r, after, split, acceptable, h⟩
    obtain ⟨c, built⟩ := exists_build_iff_acceptable.mpr acceptable
    exact ⟨before, r, after, c, split, built, (register_eq_error_iff_of_build built).mpr h⟩

/-- Registrations make a catalog exactly when they are acceptable. The catalog holds each registered policy under
    its name and nothing else. Otherwise the first registration at fault gives the error. -/
theorem build_accepts_or_refuses (registrations : List Registration) :
    ((∃ c, build registrations = .ok c) ↔ Acceptable registrations) ∧
      (∀ c, build registrations = .ok c ↔ Acceptable registrations ∧
        ∀ featureSet policy, c.policy? featureSet = some policy ↔ (featureSet, policy) ∈ registrations) ∧
      ∀ e, build registrations = .error e ↔ ∃ before r after, registrations = before ++ r :: after ∧
        Acceptable before ∧ Refused before r e := by
  refine ⟨exists_build_iff_acceptable, fun c => ⟨fun built => ?_, ?_⟩, fun e => build_eq_error_iff⟩
  · exact ⟨exists_build_iff_acceptable.mp ⟨c, built⟩, fun _ _ => policy?_eq_some_iff_of_build built⟩
  · rintro ⟨acceptable, holds⟩
    obtain ⟨c', built⟩ := exists_build_iff_acceptable.mpr acceptable
    have same : c' = c := ext_policy? fun featureSet policy =>
      (policy?_eq_some_iff_of_build built).trans (holds featureSet policy).symm
    exact same ▸ built

/-- The second registration takes a name again, but its policy is found at fault before that, by the gate that is
    the first to come a second time. -/
example : build [("Default", ⟨[⟨"A", []⟩], []⟩), ("Default", ⟨[⟨"A", []⟩, ⟨"B", []⟩, ⟨"B", []⟩, ⟨"A", []⟩], []⟩)] =
    .error (.policy "Default" (.repeated "B" .enabled)) := rfl

end

end Catalog

end GateOperator
