/-
What is said of an API as a function of what its record says of one platform.

A record has sixteen slots, and both decisions begin with a guard that reads all
of them and the message. What they decide is nevertheless a matter of the four
slots for the platform in question and of the message (`PlatformView`), by a
table in which the first row that applies wins (`PlatformView.advisory?`). The
guard never has a say: where one of the four slots states something it lets the
record pass, and where none does no row of the table applies either.

The threshold of the table is the order of versions in words, major first, with
a target that has no third part (`Slot.LaterThan`).
-/
import ApiAvailability.Proofs.Decision

set_option autoImplicit false

namespace ApiAvailability

/-! ## The threshold -/

theorem Deployment.versionNumber_target (d : Deployment) (p : Platform) :
    (d.target p).versionNumber = (d.major.toNat * 0x100 + d.minor.toNat) * 0x100 := by
  simp only [Slot.versionNumber, target, Slot.ofVersion, UInt8.toNat_zero]
  omega

namespace Slot

/-- The version of the slot comes after the target: the first part in which they
differ decides, and the third part of the target is zero. -/
def LaterThan (s : Slot) (d : Deployment) : Prop :=
  d.major < s.major ∨ d.major = s.major ∧
    (d.minor < s.minor ∨ d.minor = s.minor ∧ 0 < s.subminor)

instance (s : Slot) (d : Deployment) : Decidable (s.LaterThan d) :=
  inferInstanceAs (Decidable (_ ∨ _ ∧ (_ ∨ _ ∧ _)))

theorem laterThan_iff (s : Slot) (d : Deployment) (p : Platform) :
    s.LaterThan d ↔ (d.target p).versionNumber < s.versionNumber := by
  have hminor := s.minor.toNat_lt
  have hsubminor := s.subminor.toNat_lt
  have htarget := d.minor.toNat_lt
  have hzero : (0 : UInt8).toNat = 0 := rfl
  -- Both numbers have digits to the base 0x100, so the first that differs decides.
  rw [d.versionNumber_target, LaterThan, versionNumber]
  simp only [UInt8.lt_iff_toNat_lt, ← UInt8.toNat_inj, hzero]
  omega

end Slot

/-! ## What a record says of one platform -/

/-- The four slots of a record for one platform, and its message. -/
structure PlatformView where
  unavailable : Slot
  deprecated : Slot
  obsoleted : Slot
  introduced : Slot
  message : Option String
  deriving DecidableEq

/-- What the record says of a platform; nothing where there is no platform. -/
def Record.viewFor? (r : Record) (p : Platform) : Option PlatformView := do
  return {
    unavailable := ← r.slot .unavailable p
    deprecated := ← r.slot .deprecated p
    obsoleted := ← r.slot .obsoleted p
    introduced := ← r.slot .introduced p
    message := r.message }

namespace PlatformView

def slot (v : PlatformView) : FactKind → Slot
  | .introduced => v.introduced
  | .deprecated => v.deprecated
  | .obsoleted => v.obsoleted
  | .unavailable => v.unavailable

/-- What is said of an API that should not be used any more. Unavailable wins
over the other two, which may go together. -/
def withdrawal? (v : PlatformView) : Option String :=
  match v.unavailable.isSpecified, v.deprecated.isSpecified, v.obsoleted.isSpecified with
  | true, _, _ => some ("was made unavailable in " ++ v.unavailable.fullName)
  | false, true, true =>
    some ("was deprecated in " ++ v.deprecated.fullName ++
      " and obsoleted (might be removed) in " ++ v.obsoleted.fullName)
  | false, false, true =>
    some ("was obsoleted (might be removed) in " ++ v.obsoleted.fullName)
  | false, true, false => some ("was deprecated in " ++ v.deprecated.fullName)
  | false, false, false => none

/-- What is said of an API that came after the target. -/
def tooNew? (v : PlatformView) : Option Deployment → Option String
  | some d =>
    if v.introduced.isSpecified ∧ v.introduced.LaterThan d then
      some (Advisory.introductionText v.introduced)
    else none
  | none => none

/-- The text with the message, even an empty one, on a new line. -/
def withMessage (v : PlatformView) (text : String) : String :=
  match v.message with
  | some message => text ++ ".\n " ++ message
  | none => text

/-- **The table.** What there is to say for a target, if anything. -/
def advisory? (v : PlatformView) (minimum : Option Deployment) : Option Advisory :=
  match v.withdrawal?, v.tooNew? minimum with
  | some text, _ => some ⟨.deprecatedOrObsoleted, v.withMessage text⟩
  | none, some text => some ⟨.introducedLater, v.withMessage text⟩
  | none, none => none

end PlatformView

namespace Record

theorem viewFor?_eq_some_iff (r : Record) (p : Platform) (v : PlatformView) :
    r.viewFor? p = some v ↔ (∀ k, r.slot k p = some (v.slot k)) ∧ r.message = v.message := by
  obtain ⟨unavailable, deprecated, obsoleted, introduced, message⟩ := v
  simp only [viewFor?, Option.bind_eq_bind, Option.bind_eq_some_iff, Option.pure_def,
    Option.some.injEq, PlatformView.mk.injEq]
  constructor
  · rintro ⟨u, hu, d, hd, o, ho, i, hi, rfl, rfl, rfl, rfl, rfl⟩
    exact ⟨fun k => by cases k <;> assumption, rfl⟩
  · rintro ⟨hslot, rfl⟩
    exact ⟨_, hslot .unavailable, _, hslot .deprecated, _, hslot .obsoleted, _, hslot .introduced,
      rfl, rfl, rfl, rfl, rfl⟩

/-- There is a view for each of the four platforms, and for no other. -/
theorem viewFor?_eq_none_iff (r : Record) (p : Platform) : r.viewFor? p = none ↔ p = .none := by
  cases p <;> simp [viewFor?, slot, SlotSet.get]

theorem viewFor?_congr {r r' : Record} {p : Platform} (hslot : ∀ k, r.slot k p = r'.slot k p)
    (hmessage : r.message = r'.message) : r.viewFor? p = r'.viewFor? p := by
  simp only [viewFor?, hslot, hmessage]

end Record

/-! ## The two decisions in a view -/

namespace Advisory

section

variable {r : Record} {p : Platform} {v : PlatformView}

theorem isSpecifiedFor_of_viewFor? (h : r.viewFor? p = some v) (k : FactKind) :
    r.isSpecifiedFor k p = (v.slot k).isSpecified := by
  have hslot : (r.facts k).get p = some (v.slot k) := ((r.viewFor?_eq_some_iff p v).1 h).1 k
  rw [Record.isSpecifiedFor, SlotSet.isSpecifiedFor, hslot, Option.any_some]

theorem fullNameFor_of_viewFor? (h : r.viewFor? p = some v) (k : FactKind) :
    (r.facts k).fullNameFor p = (v.slot k).fullName := by
  have hslot : (r.facts k).get p = some (v.slot k) := ((r.viewFor?_eq_some_iff p v).1 h).1 k
  rw [SlotSet.fullNameFor, hslot, Option.map_some, Option.getD_some]

/-- The guard lets the record pass, or there is nothing in the view. -/
theorem applicable_of_viewFor? (h : r.viewFor? p = some v) :
    applicable (some r) p = some r ∨
      applicable (some r) p = none ∧ ∀ k, (v.slot k).isSpecified = false := by
  cases happlicable : applicable (some r) p with
  | some r' =>
    left
    rw [← getD_of_applicable happlicable, Option.getD_some]
  | none =>
    -- A slot of the view that states something would have let the record pass.
    refine Or.inr ⟨rfl, fun k => Bool.eq_false_iff.2 fun hk => ?_⟩
    have hfact : ((some r).getD .empty).isSpecifiedFor k p := by
      rw [Option.getD_some, isSpecifiedFor_of_viewFor? h, hk]
    rw [applicable_of_isSpecifiedFor hfact] at happlicable
    cases happlicable

theorem deprecation?_of_viewFor? (h : r.viewFor? p = some v) :
    deprecation? (some r) p = v.withdrawal? := by
  unfold deprecation? PlatformView.withdrawal?
  rcases applicable_of_viewFor? h with hpass | ⟨hstop, hnothing⟩
  · rw [hpass]
    have hU : r.isSpecifiedFor .unavailable p = v.unavailable.isSpecified :=
      isSpecifiedFor_of_viewFor? h .unavailable
    have hD : r.isSpecifiedFor .deprecated p = v.deprecated.isSpecified :=
      isSpecifiedFor_of_viewFor? h .deprecated
    have hO : r.isSpecifiedFor .obsoleted p = v.obsoleted.isSpecified :=
      isSpecifiedFor_of_viewFor? h .obsoleted
    have hnameU : r.unavailable.fullNameFor p = v.unavailable.fullName :=
      fullNameFor_of_viewFor? h .unavailable
    have hnameD : r.deprecated.fullNameFor p = v.deprecated.fullName :=
      fullNameFor_of_viewFor? h .deprecated
    have hnameO : r.obsoleted.fullNameFor p = v.obsoleted.fullName :=
      fullNameFor_of_viewFor? h .obsoleted
    simp only [Option.bind_eq_bind, Option.bind_some, hU, hD, hO, hnameU, hnameD, hnameO]
    -- Which row applies is a matter of three flags.
    cases v.unavailable.isSpecified <;> cases v.deprecated.isSpecified <;>
      cases v.obsoleted.isSpecified <;> rfl
  · -- The guard has stopped the record, and no row would have applied either.
    have hU : v.unavailable.isSpecified = false := hnothing .unavailable
    have hD : v.deprecated.isSpecified = false := hnothing .deprecated
    have hO : v.obsoleted.isSpecified = false := hnothing .obsoleted
    rw [hstop, hU, hD, hO]
    rfl

theorem introduction?_of_viewFor? (h : r.viewFor? p = some v) (minimum : Option Deployment) :
    introduction? (some r) minimum p = v.tooNew? minimum := by
  have hslot : r.slot .introduced p = some v.introduced :=
    ((r.viewFor?_eq_some_iff p v).1 h).1 .introduced
  unfold introduction?
  cases minimum with
  | none => cases applicable (some r) p <;> rfl
  | some d =>
    rw [PlatformView.tooNew?]
    rcases applicable_of_viewFor? h with hpass | ⟨hstop, hnothing⟩
    · rw [hpass]
      simp only [Option.bind_eq_bind, Option.bind_some, hslot, Slot.compareTo,
        Slot.compareVersion_eq_gt_iff, v.introduced.laterThan_iff d p, Bool.and_eq_true,
        decide_eq_true_eq]
    · have hI : v.introduced.isSpecified = false := hnothing .introduced
      rw [hstop, hI]
      rfl

/-- The second decision is a matter of one slot. -/
theorem introduction?_of_slot {record : Option Record} {s : Slot}
    (hs : (record.getD .empty).slot .introduced p = some s) (minimum : Option Deployment) :
    introduction? record minimum p = minimum.bind fun d =>
      if s.isSpecified ∧ s.LaterThan d then some (introductionText s) else none := by
  cases record with
  | none =>
    have hnothing : ¬s.isSpecified := SlotSet.not_isSpecified_of_get_empty hs
    simp [introduction?, applicable, hnothing]
  | some r =>
    have hp : r.viewFor? p ≠ none := by
      intro hnone
      rw [(r.viewFor?_eq_none_iff p).1 hnone] at hs
      exact absurd hs (by simp [Record.slot, SlotSet.get])
    obtain ⟨v, hview⟩ := Option.ne_none_iff_exists'.1 hp
    have hslot := ((r.viewFor?_eq_some_iff p v).1 hview).1 .introduced
    obtain rfl : s = v.introduced := Option.some.inj (hs.symm.trans hslot)
    rw [introduction?_of_viewFor? hview]
    cases minimum with
    | none => rfl
    | some d => rfl

theorem advise?_of_viewFor? (h : r.viewFor? p = some v) (minimum : Option Deployment) :
    advise? (some r) minimum p = v.advisory? minimum := by
  have hmessage : r.message = v.message := ((r.viewFor?_eq_some_iff p v).1 h).2
  have htext : ∀ text, withMessageOf (some r) text = v.withMessage text := by
    intro text
    rw [withMessageOf, Option.bind_some, hmessage]
    rfl
  rw [advise?, deprecation?_of_viewFor? h, introduction?_of_viewFor? h, PlatformView.advisory?]
  cases v.withdrawal? with
  | some text => simp only [htext]
  | none =>
    cases v.tooNew? minimum with
    | some text => simp only [Option.map_some, htext]
    | none => rfl

end

theorem advise?_none_platform (record : Option Record) (minimum : Option Deployment) :
    advise? record minimum .none = none := by
  have hstop : applicable record .none = none := by
    rw [applicable, Option.filter_eq_none_iff]
    intro r _
    simp [Platform.isConcrete]
  simp [advise?, deprecation?, introduction?, hstop]

/-- What is said of a record is what the table says of its view. -/
theorem advise?_eq (record : Option Record) (minimum : Option Deployment) (p : Platform) :
    advise? record minimum p =
      (record.bind fun r => r.viewFor? p).bind fun v => v.advisory? minimum := by
  cases record with
  | none => rfl
  | some r =>
    rw [Option.bind_some]
    cases hview : r.viewFor? p with
    | none =>
      rw [(r.viewFor?_eq_none_iff p).1 hview, advise?_none_platform]
      rfl
    | some v => exact advise?_of_viewFor? hview minimum

/-- An absent record is as good as the empty one. -/
theorem advise?_getD (record : Option Record) (minimum : Option Deployment) (p : Platform) :
    advise? record minimum p = advise? (some (record.getD .empty)) minimum p := by
  cases record with
  | none => rfl
  | some r => rfl

/-- **What is said is a matter of four slots and the message.** There is nothing
to say without a platform or a record. Otherwise it is what the table says of
the four slots for the platform and of the message. So records that agree on these
are advised upon alike for every target, whatever they hold for other platforms;
an absent record is read as the empty one. -/
theorem advise?_view (minimum : Option Deployment) (p : Platform) (record : Option Record) :
    (p = .none ∨ record = none → advise? record minimum p = none) ∧
    (advise? record minimum p =
      (record.bind fun r => r.viewFor? p).bind fun v => v.advisory? minimum) ∧
    ∀ record' : Option Record,
      (∀ k, (record.getD .empty).slot k p = (record'.getD .empty).slot k p) →
      (record.getD .empty).message = (record'.getD .empty).message →
      advise? record minimum p = advise? record' minimum p := by
  refine ⟨?_, advise?_eq record minimum p, fun record' hslot hmessage => ?_⟩
  · rintro (rfl | rfl)
    · exact advise?_none_platform record minimum
    · rfl
  · -- An absent record has no view, while the empty one has; both say nothing.
    rw [advise?_getD record, advise?_getD record', advise?_eq, advise?_eq, Option.bind_some,
      Option.bind_some, Record.viewFor?_congr hslot hmessage]

/-- A slot for macOS more makes no difference on iOS, where the API came with a
version that is later than the target by its third part. -/
theorem advise?_view_otherPlatform :
    let r : Record :=
      { Record.empty with introduced := .single ⟨.iOS, .every, 10, 3, 1⟩, message := some "" }
    let r' : Record := { r with unavailable := .single (.ofVersion .macOS 10 9) }
    r ≠ r' ∧ (∀ k, r.slot k .iOS = r'.slot k .iOS) ∧ r.message = r'.message ∧
    advise? (some r) (some ⟨10, 3, 5⟩) .none = none ∧
    advise? (some r) (some ⟨10, 3, 5⟩) .iOS =
      some ⟨.introducedLater, "is only available on iOS 10.3 or newer.\n "⟩ ∧
    advise? (some r) (some ⟨10, 3, 5⟩) .iOS = advise? (some r') (some ⟨10, 3, 5⟩) .iOS := by
  intro r r'
  have hslot : ∀ k, r.slot k .iOS = r'.slot k .iOS := by
    intro k
    cases k <;> rfl
  obtain ⟨hsilent, -, -⟩ := advise?_view (some ⟨10, 3, 5⟩) .none (some r)
  obtain ⟨-, htable, hagree⟩ := advise?_view (some ⟨10, 3, 5⟩) .iOS (some r)
  refine ⟨by decide, hslot, rfl, hsilent (Or.inl rfl), ?_, hagree (some r') hslot rfl⟩
  rw [htable]
  decide

end Advisory

end ApiAvailability
