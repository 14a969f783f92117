/-
What an attribute about one platform states, and that it changes nothing else.

Five forms speak of one platform: a version, perhaps with a flag for 64-bit, for an
introduction; and for a fact of any kind an architecture alone, or a version of two or
three parts with an architecture. They differ in the number of arguments, so at most
one of them fits, and together they are the relation `Attribute.States` between an
attribute and the kind, the slot and the text that it states. The readers find out the
same in their own order, the platform before the number of arguments and this before
the other arguments; what they find is told by the relation
(`reading_of_states`, `exists_states_of_reading`).

One slot is a set whose other slots state nothing, and a slot that states nothing adds
nothing on the right. So of the sixteen slots of a record the attribute touches the one
for its kind and platform (`slot_applyTo_single`).
-/
import ApiAvailability.Proofs.Gathering
import ApiAvailability.Proofs.SlotLattice
import Mathlib.Tactic.SplitIfs

set_option autoImplicit false

namespace ApiAvailability

/-! ## Platforms -/

namespace Platform

theorem ofByte?_eq_some_iff (b : UInt8) (p : Platform) : ofByte? b = some p ↔ b = p.toByte := by
  constructor
  · intro h
    unfold ofByte? at h
    split_ifs at h with h0 h1 h2 h3 h4
    all_goals
      cases h
      assumption
  · rintro rfl
    exact ofByte?_toByte p

/-- A byte names one of the four platforms. -/
theorem filter_ofByte?_eq_some_iff (b : UInt8) (p : Platform) :
    (ofByte? b).filter isConcrete = some p ↔ b = p.toByte ∧ p.isConcrete := by
  rw [Option.filter_eq_some_iff, ofByte?_eq_some_iff]

end Platform

namespace Reading

variable {k : FactKind} {facts : Facts}

theorem ofFacts?_eq_states_iff {found : Option Facts} :
    ofFacts? found = .states facts ↔ found = some facts := by
  cases found with
  | none => simp [ofFacts?]
  | some found => simp [ofFacts?]

/-- What follows a platform is read for this platform. -/
theorem ofSingle_cons {q : Argument} {p : Platform} (hq : q.byte? = some p.toByte)
    (hp : p.isConcrete) (k : FactKind) (rest : List Argument) :
    ofSingle k (q :: rest) = ofFacts? (Facts.ofSingle? k p rest) := by
  have hfilter := (Platform.filter_ofByte?_eq_some_iff p.toByte p).2 ⟨rfl, hp⟩
  rw [ofSingle, hq]
  dsimp only
  rw [hfilter]

/-- Facts are read only behind the byte of a platform. -/
theorem exists_of_ofSingle_eq_states {arguments : List Argument}
    (h : ofSingle k arguments = .states facts) :
    ∃ q rest p, arguments = q :: rest ∧ q.byte? = some (Platform.toByte p) ∧ p.isConcrete ∧
      Facts.ofSingle? k p rest = some facts := by
  cases arguments with
  | nil => cases h
  | cons q rest =>
    rw [ofSingle] at h
    split at h
    · cases h
    · rename_i b hq
      split at h
      · rename_i p hp
        obtain ⟨rfl, hconcrete⟩ := (Platform.filter_ofByte?_eq_some_iff b p).1 hp
        exact ⟨q, rest, p, rfl, hq, hconcrete, ofFacts?_eq_states_iff.1 h⟩
      · cases h

end Reading

/-! ## The forms -/

namespace Attribute

/-- The kind, the slot and the text in place of the message that an attribute about one
platform states, by the form that its arguments have. -/
inductive States (a : Attribute) : FactKind → Slot → Option String → Prop
  /-- The major and minor part of a version. -/
  | version {p : Platform} {x y : Argument} {major minor : UInt8} :
    a.shape = .shorthand p → a.arguments = [x, y] →
    x.byte? = some major → y.byte? = some minor →
    a.States .introduced ⟨p, .unstated, major, minor, 0⟩ none
  /-- The same with a flag that limits it to 64-bit. -/
  | flaggedVersion {p : Platform} {x y : Argument} {major minor : UInt8} {only64 : Bool} :
    a.shape = .shorthand p → a.arguments = [x, y, .bool only64] →
    x.byte? = some major → y.byte? = some minor →
    a.States .introduced ⟨p, if only64 then .arch64 else .unstated, major, minor, 0⟩ none
  /-- A platform and an architecture, with something that does not count. -/
  | architecture {k : FactKind} {p : Platform} {q x last : Argument} {arch : UInt8} :
    a.shape = .single k → a.arguments = [q, x, last] →
    q.byte? = some p.toByte → p.isConcrete → x.byte? = some arch →
    a.States k ⟨p, ⟨arch⟩, 0, 0, 0⟩ none
  /-- A platform, a version of two parts and an architecture, with a message. -/
  | twoParts {k : FactKind} {p : Platform} {q x y z last : Argument} {major minor arch : UInt8} :
    a.shape = .single k → a.arguments = [q, x, y, z, last] →
    q.byte? = some p.toByte → p.isConcrete →
    x.byte? = some major → y.byte? = some minor → z.byte? = some arch →
    a.States k ⟨p, ⟨arch⟩, major, minor, 0⟩ last.text?
  /-- A platform, a version of three parts and an architecture, with a message. -/
  | threeParts {k : FactKind} {p : Platform} {q x y z w last : Argument}
    {major minor subminor arch : UInt8} :
    a.shape = .single k → a.arguments = [q, x, y, z, w, last] →
    q.byte? = some p.toByte → p.isConcrete →
    x.byte? = some major → y.byte? = some minor → z.byte? = some subminor →
    w.byte? = some arch →
    a.States k ⟨p, ⟨arch⟩, major, minor, subminor⟩ last.text?

/-- The attribute is about one platform. -/
def IsOnePlatform (a : Attribute) : Prop :=
  (∃ p, a.shape = .shorthand p) ∨ ∃ k, a.shape = .single k

theorem isConcrete_of_shape_eq_shorthand {a : Attribute} {p : Platform}
    (h : a.shape = .shorthand p) : p.isConcrete := by
  unfold shape at h
  split_ifs at h
  unfold Shape.ofInteropType at h
  split at h
  all_goals
    cases h
    try rfl

variable {a : Attribute} {k : FactKind} {s : Slot} {m : Option String}

theorem States.isConcrete (h : a.States k s m) : s.platform.isConcrete := by
  cases h with
  | version hshape => exact isConcrete_of_shape_eq_shorthand hshape
  | flaggedVersion hshape => exact isConcrete_of_shape_eq_shorthand hshape
  | architecture _ _ _ hp => exact hp
  | twoParts _ _ _ hp => exact hp
  | threeParts _ _ _ hp => exact hp

/-- **What a form states is read.** -/
theorem reading_of_states (h : a.States k s m) :
    a.reading = .states ⟨[(k, .single s)], (m.map MessageUpdate.replace).toList⟩ := by
  cases h with
  | version hshape harguments hmajor hminor =>
    simp [reading, hshape, harguments, Facts.ofShorthand?, hmajor, hminor, Reading.ofFacts?]
  | flaggedVersion hshape harguments hmajor hminor =>
    simp [reading, hshape, harguments, Facts.ofShorthand?, hmajor, hminor, Argument.bool?,
      Reading.ofFacts?]
  | architecture hshape harguments hq hp harch =>
    rw [reading, hshape, harguments]
    simp [Reading.ofSingle_cons hq hp, Facts.ofSingle?, harch, Reading.ofFacts?]
  | twoParts hshape harguments hq hp hmajor hminor harch =>
    rw [reading, hshape, harguments]
    simp [Reading.ofSingle_cons hq hp, Facts.ofSingle?, hmajor, hminor, harch, Facts.messageOf,
      Reading.ofFacts?]
  | threeParts hshape harguments hq hp hmajor hminor hsubminor harch =>
    rw [reading, hshape, harguments]
    simp [Reading.ofSingle_cons hq hp, Facts.ofSingle?, hmajor, hminor, hsubminor, harch,
      Facts.messageOf, Reading.ofFacts?]

theorem exists_states_of_ofShorthand? {p : Platform} {facts : Facts}
    (hshape : a.shape = .shorthand p) (h : Facts.ofShorthand? p a.arguments = some facts) :
    ∃ k s m, a.States k s m := by
  generalize harguments : a.arguments = arguments at h
  -- Two arguments or three, the third of which is a flag.
  rcases arguments with _ | ⟨x, _ | ⟨y, _ | ⟨flag, _ | ⟨_, _⟩⟩⟩⟩
  · cases h
  · cases h
  · obtain ⟨major, hmajor, h⟩ := Option.bind_eq_some_iff.1 h
    obtain ⟨minor, hminor, -⟩ := Option.bind_eq_some_iff.1 h
    exact ⟨_, _, _, .version hshape harguments hmajor hminor⟩
  · obtain ⟨major, hmajor, h⟩ := Option.bind_eq_some_iff.1 h
    obtain ⟨minor, hminor, h⟩ := Option.bind_eq_some_iff.1 h
    obtain ⟨only64, hflag, -⟩ := Option.bind_eq_some_iff.1 h
    cases flag with
    | bool b => exact ⟨_, _, _, .flaggedVersion hshape harguments hmajor hminor⟩
    | _ => cases hflag
  · cases h

theorem exists_states_of_ofSingle? {p : Platform} {q : Argument} {rest : List Argument}
    {facts : Facts} (hshape : a.shape = .single k) (harguments : a.arguments = q :: rest)
    (hq : q.byte? = some p.toByte) (hp : p.isConcrete)
    (h : Facts.ofSingle? k p rest = some facts) : ∃ k s m, a.States k s m := by
  -- Behind the platform two, four or five arguments.
  rcases rest with _ | ⟨x, _ | ⟨y, _ | ⟨z, _ | ⟨w, _ | ⟨last, _ | ⟨_, _⟩⟩⟩⟩⟩⟩
  · cases h
  · cases h
  · obtain ⟨arch, harch, -⟩ := Option.bind_eq_some_iff.1 h
    exact ⟨_, _, _, .architecture hshape harguments hq hp harch⟩
  · cases h
  · obtain ⟨arch, harch, h⟩ := Option.bind_eq_some_iff.1 h
    obtain ⟨major, hmajor, h⟩ := Option.bind_eq_some_iff.1 h
    obtain ⟨minor, hminor, -⟩ := Option.bind_eq_some_iff.1 h
    exact ⟨_, _, _, .twoParts hshape harguments hq hp hmajor hminor harch⟩
  · obtain ⟨arch, harch, h⟩ := Option.bind_eq_some_iff.1 h
    obtain ⟨major, hmajor, h⟩ := Option.bind_eq_some_iff.1 h
    obtain ⟨minor, hminor, h⟩ := Option.bind_eq_some_iff.1 h
    obtain ⟨subminor, hsubminor, -⟩ := Option.bind_eq_some_iff.1 h
    exact ⟨_, _, _, .threeParts hshape harguments hq hp hmajor hminor hsubminor harch⟩
  · cases h

/-- **What is read was stated by a form.** -/
theorem exists_states_of_reading (h : a.IsOnePlatform) {facts : Facts}
    (hreading : a.reading = .states facts) : ∃ k s m, a.States k s m := by
  rcases h with ⟨p, hshape⟩ | ⟨k, hshape⟩
  · rw [reading, hshape] at hreading
    exact exists_states_of_ofShorthand? hshape (Reading.ofFacts?_eq_states_iff.1 hreading)
  · rw [reading, hshape] at hreading
    obtain ⟨q, rest, p, harguments, hq, hp, hfacts⟩ :=
      Reading.exists_of_ofSingle_eq_states hreading
    exact exists_states_of_ofSingle? hshape harguments hq hp hfacts

/-- What a form states is what the attribute states. -/
theorem facts?_of_states (h : a.States k s m) :
    a.facts? = some ⟨[(k, .single s)], (m.map MessageUpdate.replace).toList⟩ := by
  rw [facts?, reading_of_states h]

/-- Without a form the attribute states nothing. -/
theorem facts?_eq_none_of_not_states (h : a.IsOnePlatform) (hforms : ∀ k s m, ¬a.States k s m) :
    a.facts? = none := by
  unfold facts?
  cases hreading : a.reading with
  | states facts =>
    obtain ⟨k, s, m, hstates⟩ := exists_states_of_reading h hreading
    exact absurd hstates (hforms k s m)
  | nothing => rfl
  | unknownPlatform value => rfl

end Attribute

/-! ## One slot -/

namespace SlotSet

/-- A set of one slot has it in the position of its platform, and nothing elsewhere. -/
theorem get_single {s : Slot} (h : s.platform.isConcrete) (p : Platform) :
    (single s).get p = if p = s.platform then some s else empty.get p := by
  obtain ⟨q, arch, major, minor, subminor⟩ := s
  cases q <;> cases p <;> first | rfl | cases h

theorem get_merge_single (policy : ConflictPolicy) (t : SlotSet) {s : Slot}
    (h : s.platform.isConcrete) (p : Platform) : (t.merge policy (single s)).get p =
      if p = s.platform then (t.get p).map (policy.combine · s) else t.get p := by
  rw [get_merge, get_single h]
  by_cases hp : p = s.platform
  · rw [if_pos hp, if_pos hp]
    cases t.get p <;> rfl
  · rw [if_neg hp, if_neg hp, ← get_merge, merge_empty]

end SlotSet

namespace Record

/-- **One slot is touched,** that of the kind and the platform. -/
theorem slot_applyTo_single (policy : ConflictPolicy) (r : Record) (k : FactKind) {s : Slot}
    (h : s.platform.isConcrete) (updates : List MessageUpdate) (l : FactKind) (p : Platform) :
    ((⟨[(k, .single s)], updates⟩ : Facts).applyTo policy r).slot l p =
      if l = k ∧ p = s.platform then (r.slot l p).map (policy.combine · s) else r.slot l p := by
  rw [slot, Facts.facts_applyTo]
  by_cases hk : l = k
  · have hsets : (⟨[(k, .single s)], updates⟩ : Facts).setsOf l = [.single s] := by
      simp [Facts.setsOf, hk]
    rw [hsets, List.foldl_cons, List.foldl_nil, SlotSet.get_merge_single policy _ h]
    simp only [hk, true_and, slot]
  · have hsets : (⟨[(k, .single s)], updates⟩ : Facts).setsOf l = [] := by
      simp [Facts.setsOf, Ne.symm hk]
    rw [hsets, if_neg fun hboth => hk hboth.1]
    rfl

/-- The record after an attribute about one platform that states something. -/
theorem mergeAttribute_of_states (policy : ConflictPolicy) (record : Option Record)
    {a : Attribute} {k : FactKind} {s : Slot} {m : Option String} (h : a.States k s m) :
    ∃ r, mergeAttribute policy record a = .ok (some r) ∧
      (∃ old, (record.getD .empty).slot k s.platform = some old ∧
        r.slot k s.platform = some (policy.combine old s)) ∧
      (∀ l p, ¬(l = k ∧ p = s.platform) → r.slot l p = (record.getD .empty).slot l p) ∧
      r.message = m.or (record.bind Record.message) := by
  have hslot := slot_applyTo_single policy (record.getD .empty) k h.isConcrete
    (m.map MessageUpdate.replace).toList
  refine ⟨_, by rw [mergeAttribute, Attribute.reading_of_states h], ?_, fun l p hother => ?_, ?_⟩
  · obtain ⟨old, hold⟩ := ((record.getD .empty).facts k).exists_get h.isConcrete
    refine ⟨old, hold, ?_⟩
    rw [hslot, if_pos ⟨rfl, rfl⟩, slot, hold]
    rfl
  · rw [hslot, if_neg hother]
  · rw [Facts.message_applyTo, message_getD_empty]
    cases m <;> rfl

/-- Without a form nothing is changed, unless the attribute is an error. -/
theorem mergeAttribute_of_not_states (policy : ConflictPolicy) (record : Option Record)
    {a : Attribute} (h : a.IsOnePlatform) (hbyte : a.unknownByte? = none)
    (hforms : ∀ k s m, ¬a.States k s m) : mergeAttribute policy record a = .ok record := by
  have hfacts := Attribute.facts?_eq_none_of_not_states h hforms
  rw [mergeAttribute_eq, Attribute.mergeError?, hbyte]
  simp [gather, addStated, hfacts]

/-- **An attribute about one platform does one of three things.** It is an error exactly
if its first argument names an unknown platform. It leaves every record as it was, and
its absence, exactly if it is no error and has none of the forms. And what it states by
a form is combined into one slot, that of its kind and platform, while the other slots
stay; a text at the end of the longer forms takes the place of the message, which stays
otherwise. -/
theorem mergeAttribute_onePlatform (policy : ConflictPolicy) {a : Attribute}
    (h : a.IsOnePlatform) :
    (∀ record e, mergeAttribute policy record a = .error e ↔
      ∃ value, a.unknownByte? = some value ∧ e = ⟨a.typeName, value⟩) ∧
    ((∀ record, mergeAttribute policy record a = .ok record) ↔
      a.unknownByte? = none ∧ ∀ k s m, ¬a.States k s m) ∧
    ∀ k s m, a.States k s m → a.unknownByte? = none ∧
      ∀ record, ∃ r, mergeAttribute policy record a = .ok (some r) ∧
        (∃ old, (record.getD .empty).slot k s.platform = some old ∧
          r.slot k s.platform = some (policy.combine old s)) ∧
        (∀ l p, ¬(l = k ∧ p = s.platform) → r.slot l p = (record.getD .empty).slot l p) ∧
        r.message = m.or (record.bind Record.message) := by
  have hstated (k s m) (hstates : a.States k s m) (record : Option Record) :=
    mergeAttribute_of_states policy record hstates
  refine ⟨fun record e => mergeAttribute_eq_error_iff policy record a e, ⟨fun hsame => ?_, ?_⟩,
    fun k s m hstates => ⟨?_, hstated k s m hstates⟩⟩
  · refine ⟨unknownByte?_of_mergeAttribute_eq_ok (hsame none), fun k s m hstates => ?_⟩
    -- What is stated makes a record where there was none.
    obtain ⟨r, hr, -⟩ := hstated k s m hstates none
    rw [hsame none] at hr
    cases hr
  · rintro ⟨hbyte, hforms⟩ record
    exact mergeAttribute_of_not_states policy record h hbyte hforms
  · obtain ⟨r, hr, -⟩ := hstated k s m hstates none
    exact unknownByte?_of_mergeAttribute_eq_ok hr

/-- A third version of macOS for one kind, over a record that knows two slots. -/
theorem mergeAttribute_onePlatform_subminor :
    let a : Attribute :=
      ⟨Shape.interopScope, "ObsoletedAttribute",
        [.byte 1, .int 10, .int 12, .int 4, .byte 2, .str "use Bar"], []⟩
    let record : Record :=
      { Record.empty with
        deprecated := .single (.ofVersion .macOS 10 9)
        obsoleted := .single ⟨.macOS, .arch32, 10, 11, 5⟩
        message := some "old" }
    a.IsOnePlatform ∧ a.States .obsoleted ⟨.macOS, ⟨2⟩, 10, 12, 4⟩ (some "use Bar") ∧
    ∃ r, mergeAttribute .preferNewest (some record) a = .ok (some r) ∧
      r.slot .obsoleted .macOS = some ⟨.macOS, ⟨3⟩, 10, 12, 4⟩ ∧
      r.slot .deprecated .macOS = some (.ofVersion .macOS 10 9) ∧
      r.message = some "use Bar" := by
  intro a record
  have hshape : a.shape = .single .obsoleted := by decide
  have hplatform : (Argument.byte 1).byte? = some Platform.macOS.toByte := by decide
  have hstates : a.States .obsoleted ⟨.macOS, ⟨2⟩, 10, 12, 4⟩ (some "use Bar") :=
    .threeParts hshape rfl hplatform rfl (by decide) (by decide) (by decide) (by decide)
  have hone : a.IsOnePlatform := Or.inr ⟨_, hshape⟩
  obtain ⟨-, -, hstated⟩ := mergeAttribute_onePlatform .preferNewest hone
  obtain ⟨-, hmerged⟩ := hstated _ _ _ hstates
  obtain ⟨r, hr, ⟨old, hold, hslot⟩, hothers, hmessage⟩ := hmerged (some record)
  cases hold
  refine ⟨hone, hstates, r, hr, hslot.trans (by decide), ?_, hmessage⟩
  exact (hothers .deprecated .macOS (by decide)).trans rfl

end Record

end ApiAvailability
