/-
When there is something to say about the use of an API.

Both decisions first ask whether the record states anything at all. That guard
never decides: a fact for the platform is a fact of the record, and it is only
for one of the four platforms that there are facts. So whether there is a text
is a matter of four slots, those of the platform in question. It is said that an
API is unavailable, obsoleted or deprecated exactly if one of three slots states
something (`isSome_deprecation?_iff`), and that it is too new exactly if the
fourth does and its version is later than the target
(`isSome_introduction?_iff`). Which of the two is reported follows (`kind_advise?`).

An absent record is read as the empty one throughout, since neither has a fact.
-/
import ApiAvailability.Advisory
import ApiAvailability.Proofs.SlotLattice

set_option autoImplicit false

namespace ApiAvailability

/-! ## Facts for a platform -/

theorem SlotSet.isSpecifiedFor_iff (t : SlotSet) (p : Platform) :
    t.isSpecifiedFor p ↔ ∃ s, t.get p = some s ∧ s.isSpecified := by
  unfold isSpecifiedFor
  cases t.get p with
  | none => simp
  | some s => simp

theorem SlotSet.isSpecified_of_isSpecifiedFor {t : SlotSet} {p : Platform}
    (h : t.isSpecifiedFor p) : t.isSpecified := by
  obtain ⟨s, hs, hspecified⟩ := (t.isSpecifiedFor_iff p).1 h
  rw [isSpecified, List.any_eq_true]
  exact ⟨s, (t.mem_slots_iff s).2 ⟨p, hs⟩, hspecified⟩

namespace Record

theorem isSpecifiedFor_iff (r : Record) (k : FactKind) (p : Platform) :
    r.isSpecifiedFor k p ↔ ∃ s, r.slot k p = some s ∧ s.isSpecified :=
  (r.facts k).isSpecifiedFor_iff p

theorem isSpecified_of_isSpecifiedFor {r : Record} {k : FactKind} {p : Platform}
    (h : r.isSpecifiedFor k p) : r.isSpecified := by
  have hk : (r.facts k).isSpecified := SlotSet.isSpecified_of_isSpecifiedFor h
  rw [isSpecified, Bool.or_eq_true, List.any_eq_true]
  exact Or.inl ⟨k, by cases k <;> decide, hk⟩

theorem not_isSpecifiedFor_empty (k : FactKind) (p : Platform) :
    Record.empty.isSpecifiedFor k p = false := by
  cases k <;> cases p <;> rfl

end Record

/-! ## The two decisions -/

namespace Advisory

/-- Where there is a fact for the platform the guard lets the record pass. -/
theorem applicable_of_isSpecifiedFor {record : Option Record} {k : FactKind} {p : Platform}
    (h : (record.getD .empty).isSpecifiedFor k p) :
    applicable record p = some (record.getD .empty) := by
  cases record with
  | none =>
    rw [Option.getD_none, Record.not_isSpecifiedFor_empty] at h
    cases h
  | some r =>
    obtain ⟨s, hs, -⟩ := (r.isSpecifiedFor_iff k p).1 h
    have hspecified : r.isSpecified := Record.isSpecified_of_isSpecifiedFor h
    have hp : p.isConcrete := SlotSet.isConcrete_of_get hs
    simp [applicable, hspecified, hp]

theorem getD_of_applicable {record : Option Record} {p : Platform} {r : Record}
    (h : applicable record p = some r) : record.getD .empty = r := by
  rw [(Option.filter_eq_some_iff.1 h).1, Option.getD_some]

/-- Something is said of the first decision exactly if the API is unavailable,
deprecated or obsoleted on the platform. -/
theorem isSome_deprecation?_iff (record : Option Record) (p : Platform) :
    (deprecation? record p).isSome ↔
      (record.getD .empty).isSpecifiedFor .unavailable p ∨
      (record.getD .empty).isSpecifiedFor .deprecated p ∨
      (record.getD .empty).isSpecifiedFor .obsoleted p := by
  -- Where the guard holds the record back there is no fact for the platform.
  cases happlicable : applicable record p with
  | none =>
    have hnone : ∀ k, ¬(record.getD .empty).isSpecifiedFor k p := by
      intro k hk
      rw [applicable_of_isSpecifiedFor hk] at happlicable
      cases happlicable
    simp [deprecation?, happlicable, hnone]
  | some r =>
    rw [getD_of_applicable happlicable]
    simp only [deprecation?, happlicable, Option.bind_eq_bind, Option.bind_some]
    cases r.isSpecifiedFor .unavailable p <;> cases r.isSpecifiedFor .deprecated p <;>
      cases r.isSpecifiedFor .obsoleted p <;> simp

/-- Something is said of the second decision exactly if there is a target and
the API was introduced on the platform in a later version. -/
theorem isSome_introduction?_iff (record : Option Record) (minimum : Option Deployment)
    (p : Platform) : (introduction? record minimum p).isSome ↔
      ∃ d s, minimum = some d ∧ (record.getD .empty).slot .introduced p = some s ∧
        s.isSpecified ∧ (d.target p).versionNumber < s.versionNumber := by
  cases happlicable : applicable record p with
  | none =>
    have hnone : ∀ s, (record.getD .empty).slot .introduced p = some s → ¬s.isSpecified := by
      intro s hs hspecified
      have h := (Record.isSpecifiedFor_iff _ .introduced p).2 ⟨s, hs, hspecified⟩
      rw [applicable_of_isSpecifiedFor h] at happlicable
      cases happlicable
    simp only [introduction?, happlicable]
    constructor
    · intro h
      cases h
    · rintro ⟨d, s, -, hs, hspecified, -⟩
      exact absurd hspecified (hnone s hs)
  | some r =>
    rw [getD_of_applicable happlicable]
    simp only [introduction?, happlicable, Option.bind_eq_bind, Option.bind_some]
    cases minimum with
    | none => simp
    | some d =>
      cases r.slot .introduced p with
      | none => simp
      | some s => simp [Slot.compareTo, Slot.compareVersion_eq_gt_iff]

/-! ## Together -/

/-- The kind of what is said: the first decision comes before the second. -/
theorem kind_advise? (record : Option Record) (minimum : Option Deployment) (p : Platform) :
    (advise? record minimum p).map Advisory.kind =
      if (deprecation? record p).isSome then some .deprecatedOrObsoleted
      else if (introduction? record minimum p).isSome then some .introducedLater
      else none := by
  unfold advise?
  cases deprecation? record p with
  | some text => rfl
  | none =>
    cases introduction? record minimum p with
    | some text => rfl
    | none => rfl

/-- Where both decisions still have something to say, an advisory stays, or the
first decision takes the place of the second. -/
theorem advise?_stays {record record' : Option Record} {minimum minimum' : Option Deployment}
    {p p' : Platform} {a : Advisory}
    (hdeprecation : (deprecation? record p).isSome → (deprecation? record' p').isSome)
    (hintroduction : (introduction? record minimum p).isSome →
      (introduction? record' minimum' p').isSome)
    (ha : advise? record minimum p = some a) :
    ∃ a', advise? record' minimum' p' = some a' ∧
      (a'.kind = a.kind ∨ a.kind = .introducedLater ∧ a'.kind = .deprecatedOrObsoleted) := by
  have hkind := kind_advise? record minimum p
  rw [ha, Option.map_some] at hkind
  obtain ⟨kind, hkind', hstays⟩ : ∃ kind, (advise? record' minimum' p').map Advisory.kind =
      some kind ∧ (kind = a.kind ∨ a.kind = .introducedLater ∧ kind = .deprecatedOrObsoleted) := by
    rw [kind_advise?]
    by_cases hfirst : (deprecation? record p).isSome
    · rw [if_pos hfirst] at hkind
      rw [if_pos (hdeprecation hfirst)]
      exact ⟨_, rfl, Or.inl (Option.some.inj hkind).symm⟩
    · rw [if_neg hfirst] at hkind
      by_cases hsecond : (introduction? record minimum p).isSome
      · rw [if_pos hsecond] at hkind
        rw [if_pos (hintroduction hsecond)]
        by_cases hfirst' : (deprecation? record' p').isSome
        · rw [if_pos hfirst']
          exact ⟨_, rfl, Or.inr ⟨Option.some.inj hkind, rfl⟩⟩
        · rw [if_neg hfirst']
          exact ⟨_, rfl, Or.inl (Option.some.inj hkind).symm⟩
      · rw [if_neg hsecond] at hkind
        cases hkind
  obtain ⟨a', ha', rfl⟩ := Option.map_eq_some_iff.1 hkind'
  exact ⟨a', ha', hstays⟩

end Advisory

end ApiAvailability
