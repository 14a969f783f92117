/-
The message of a record, told from the attributes alone.

Two sorts of attributes speak about the message. The longer forms about one platform end
with a text that takes its place, and the texts of an attribute with encodings are put
behind it, provided that in either case everything else fits. So for every attribute
there is a list of updates (`messageUpdates`), which is empty for one that states
nothing, and these are the updates that the reader finds (`messages_facts?`).

A run over attributes is a run over their updates, one attribute after the other, and
of such a run the closed form is known (`foldl_after_eq`). The record at the start comes
into it by its message alone, and the policy and the slots do not come into it at all.
-/
import ApiAvailability.Attribute.Binding
import ApiAvailability.Proofs.AggregateFacts
import ApiAvailability.Proofs.OnePlatform

set_option autoImplicit false

namespace ApiAvailability

/-! ## The updates of one attribute -/

/-- Whether the argument is the byte of one of the four platforms. -/
def Argument.namesPlatform (a : Argument) : Bool :=
  Platform.concrete.any fun p => a.byte? = some p.toByte

theorem Argument.namesPlatform_iff (a : Argument) :
    a.namesPlatform ↔ ∃ p : Platform, a.byte? = some p.toByte ∧ p.isConcrete := by
  have hmem : ∀ p : Platform, p ∈ Platform.concrete ↔ p.isConcrete := by
    intro p
    cases p <;> decide
  simp only [namesPlatform, List.any_eq_true, hmem, decide_eq_true_eq, and_comm]

namespace Attribute

/-- The text that takes the place of the message: the last of five or six arguments, if
it is a text, the first one names a platform and those between them are bytes. -/
def replacement? : List Argument → Option String
  | [q, x, y, z, last] =>
    if q.namesPlatform ∧ ∀ n ∈ [x, y, z], n.byte?.isSome then last.text? else none
  | [q, x, y, z, w, last] =>
    if q.namesPlatform ∧ ∀ n ∈ [x, y, z, w], n.byte?.isSome then last.text? else none
  | _ => none

/-- What the attribute does to the message. -/
def messageUpdates (a : Attribute) : List MessageUpdate :=
  match a.shape with
  | .single _ => (replacement? a.arguments).toList.map .replace
  | .aggregate => if a.FitsEncodings then a.messageTexts.map .append else []
  | .shorthand _ | .advice | .unrecognized => []

variable {a : Attribute} {k : FactKind}

/-- What a form states in place of the message is the replacement. -/
theorem replacement?_of_states {k' : FactKind} {s : Slot} {m : Option String}
    (hshape : a.shape = .single k) (h : a.States k' s m) : replacement? a.arguments = m := by
  cases h with
  | version hother => cases hshape.symm.trans hother
  | flaggedVersion hother => cases hshape.symm.trans hother
  | architecture _ harguments => rw [harguments]; rfl
  | twoParts _ harguments hq hp hmajor hminor harch =>
    have hplatform := (Argument.namesPlatform_iff _).2 ⟨_, hq, hp⟩
    rw [harguments, replacement?, if_pos ⟨hplatform, by simp [hmajor, hminor, harch]⟩]
  | threeParts _ harguments hq hp hmajor hminor hsubminor harch =>
    have hplatform := (Argument.namesPlatform_iff _).2 ⟨_, hq, hp⟩
    rw [harguments, replacement?, if_pos ⟨hplatform, by simp [hmajor, hminor, hsubminor, harch]⟩]

/-- There is a replacement only where a form fits. -/
theorem exists_states_of_replacement? {text : String} (hshape : a.shape = .single k)
    (h : replacement? a.arguments = some text) : ∃ s m, a.States k s m := by
  generalize harguments : a.arguments = arguments at h
  unfold replacement? at h
  split at h
  · obtain ⟨⟨hplatform, hbytes⟩, -⟩ := Option.ite_none_right_eq_some.1 h
    obtain ⟨p, hq, hp⟩ := (Argument.namesPlatform_iff _).1 hplatform
    simp only [List.forall_mem_cons, Option.isSome_iff_exists] at hbytes
    obtain ⟨⟨major, hmajor⟩, ⟨minor, hminor⟩, ⟨arch, harch⟩, -⟩ := hbytes
    exact ⟨_, _, .twoParts hshape harguments hq hp hmajor hminor harch⟩
  · obtain ⟨⟨hplatform, hbytes⟩, -⟩ := Option.ite_none_right_eq_some.1 h
    obtain ⟨p, hq, hp⟩ := (Argument.namesPlatform_iff _).1 hplatform
    simp only [List.forall_mem_cons, Option.isSome_iff_exists] at hbytes
    obtain ⟨⟨major, hmajor⟩, ⟨minor, hminor⟩, ⟨subminor, hsubminor⟩, ⟨arch, harch⟩, -⟩ := hbytes
    exact ⟨_, _, .threeParts hshape harguments hq hp hmajor hminor hsubminor harch⟩
  · cases h

/-- A form of a shorthand says nothing about the message. -/
theorem States.eq_none_of_shorthand {p : Platform} {s : Slot} {m : Option String}
    (hshape : a.shape = .shorthand p) (h : a.States k s m) : m = none := by
  cases h with
  | version => rfl
  | flaggedVersion => rfl
  | architecture hother => cases hshape.symm.trans hother
  | twoParts hother => cases hshape.symm.trans hother
  | threeParts hother => cases hshape.symm.trans hother

/-- Where every form states the same text in place of the message, and there is such a
text only if a form fits, this is all that is done to the message. -/
theorem messages_facts?_of_isOnePlatform {text : Option String} (h : a.IsOnePlatform)
    (hstated : ∀ k s m, a.States k s m → m = text)
    (hnone : (∀ k s m, ¬a.States k s m) → text = none) :
    a.facts?.toList.flatMap Facts.messages = text.toList.map .replace := by
  by_cases hforms : ∃ k s m, a.States k s m
  · obtain ⟨k, s, m, hstates⟩ := hforms
    obtain rfl := hstated k s m hstates
    rw [facts?_of_states hstates]
    cases m <;> rfl
  · simp only [not_exists] at hforms
    rw [facts?_eq_none_of_not_states h hforms, hnone hforms]
    rfl

/-- **The updates that are read** are those that the attribute states. -/
theorem messages_facts? (a : Attribute) :
    a.facts?.toList.flatMap Facts.messages = a.messageUpdates := by
  cases hshape : a.shape with
  | shorthand p =>
    have hnone : ∀ k s m, a.States k s m → m = none := fun _ _ _ hstates =>
      hstates.eq_none_of_shorthand hshape
    have hread := messages_facts?_of_isOnePlatform (.inl ⟨p, hshape⟩) hnone fun _ => rfl
    rw [messageUpdates, hshape]
    exact hread
  | single k =>
    rw [messageUpdates, hshape]
    apply messages_facts?_of_isOnePlatform (.inr ⟨k, hshape⟩)
    · intro k' s m hstates
      exact (replacement?_of_states hshape hstates).symm
    · intro hforms
      rw [Option.eq_none_iff_forall_ne_some]
      intro text htext
      obtain ⟨s, m, hstates⟩ := exists_states_of_replacement? hshape htext
      exact hforms k s m hstates
  | aggregate =>
    rw [messageUpdates, hshape, facts?]
    by_cases hfits : a.FitsEncodings
    · obtain ⟨sets, -, hreading⟩ := exists_reading_of_fitsEncodings hshape hfits
      simp [hreading, hfits]
    · simp [reading_of_not_fitsEncodings hshape hfits, hfits]
  | advice => simp [messageUpdates, facts?, reading, hshape]
  | unrecognized => simp [messageUpdates, facts?, reading, hshape]

/-! ## The message after a run -/

theorem statedMessages_eq (l : List Attribute) :
    statedMessages l = l.flatMap messageUpdates := by
  rw [statedMessages, List.filterMap_eq_flatMap_toList, List.flatMap_assoc]
  exact congrArg (List.flatMap · l) (funext messages_facts?)

end Attribute

namespace Record

/-- The message that a run leaves. -/
theorem message_of_mergeAttributes_eq_ok {policy : ConflictPolicy}
    {record merged : Option Record} {l : List Attribute}
    (h : mergeAttributes policy record l = .ok merged) :
    merged.bind Record.message =
      (l.flatMap Attribute.messageUpdates).foldl MessageUpdate.after
        (record.bind Record.message) := by
  rw [gather_of_mergeAttributes_eq_ok h, ← message_getD_empty, message_gather, message_getD_empty,
    Attribute.statedMessages_eq]

/-- **The message is told by the updates.** Attributes of which none is an error are
gathered into any record without one, and leave the last text that takes the place of the
message with the texts that are appended after it; or, where nothing takes its place, the
message of the record with all that are appended. There is none only where there was none
and nothing is said of it. So runs that start from the same message, and whose attributes
state the same updates, end with the same message. -/
theorem mergeAttributes_message :
    (∀ (policy : ConflictPolicy) (record : Option Record) (l : List Attribute),
      (∀ a ∈ l, a.unknownByte? = none) →
      ∃ merged, mergeAttributes policy record l = .ok merged ∧
        ((∃ before text later,
            l.flatMap Attribute.messageUpdates =
              before ++ .replace text :: List.map .append later ∧
            merged.bind Record.message = MessageUpdate.joined (text :: later)) ∨
          ∃ texts, l.flatMap Attribute.messageUpdates = List.map .append texts ∧
            merged.bind Record.message =
              MessageUpdate.joined ((record.bind Record.message).toList ++ texts)) ∧
        (merged.bind Record.message = none ↔
          record.bind Record.message = none ∧ l.flatMap Attribute.messageUpdates = [])) ∧
    ∀ (policy policy' : ConflictPolicy) (record record' merged merged' : Option Record)
      (l l' : List Attribute), mergeAttributes policy record l = .ok merged →
      mergeAttributes policy' record' l' = .ok merged' →
      record.bind Record.message = record'.bind Record.message →
      l.flatMap Attribute.messageUpdates = l'.flatMap Attribute.messageUpdates →
      merged.bind Record.message = merged'.bind Record.message := by
  refine ⟨fun policy record l h => ?_,
    fun policy policy' record record' merged merged' l l' hl hl' hstart hupdates => ?_⟩
  · have hok := mergeAttributes_eq_ok h policy record
    refine ⟨_, hok, ?_⟩
    rw [message_of_mergeAttributes_eq_ok hok]
    exact ⟨MessageUpdate.foldl_after_eq _ _, MessageUpdate.foldl_after_eq_none_iff _ _⟩
  · rw [message_of_mergeAttributes_eq_ok hl, message_of_mergeAttributes_eq_ok hl', hstart, hupdates]

/-- A message that is replaced, and to which an empty text is appended; what a negative
encoding comes with does not count. -/
theorem mergeAttributes_message_replaced :
    let aggregate (named : List NamedArgument) : Attribute :=
      ⟨Shape.interopScope, "AvailabilityAttribute", [], named⟩
    let l : List Attribute :=
      [aggregate [⟨"Message", .str "first"⟩], .single .deprecated .iOS 9 0 .every (some "second"),
        aggregate [⟨"Message", .str "third"⟩, ⟨"Obsoleted", .int (-1)⟩], .ios 8 0,
        aggregate [⟨"Message", .str ""⟩]]
    (∀ a ∈ l, a.unknownByte? = none) ∧
    l.flatMap Attribute.messageUpdates = [.append "first", .replace "second", .append ""] ∧
    ∃ merged, mergeAttributes .bitwiseOr none l = .ok merged ∧
      merged.bind Record.message = some "second; " := by
  intro aggregate l
  have hfatal : ∀ a ∈ l, a.unknownByte? = none := by decide
  have hupdates :
      l.flatMap Attribute.messageUpdates = [.append "first", .replace "second", .append ""] := by
    decide
  obtain ⟨merged, hmerged, hmessage, -⟩ := mergeAttributes_message.1 .bitwiseOr none l hfatal
  refine ⟨hfatal, hupdates, merged, hmerged, ?_⟩
  rw [hupdates] at hmessage
  -- However the updates are taken apart, the text is what they amount to.
  rcases hmessage with ⟨before, text, later, heq, hjoined⟩ | ⟨texts, heq, hjoined⟩
  · rw [hjoined, ← MessageUpdate.foldl_after_replace none before text later, ← heq]
    decide
  · rw [hjoined, ← MessageUpdate.foldl_after_append, ← heq]
    decide

end Record

end ApiAvailability
