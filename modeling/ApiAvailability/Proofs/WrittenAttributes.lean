/-
What the bindings write is what a record takes up.

The writers and the readers of attributes share no code. A type is put together from the
name of a kind and matched as a whole text; of five arguments only the platform and the
mask are written as bytes, while the version is written as signed integers and encodings as
unsigned ones; and the same number stands in another place in each form. So the arguments
are shown to have the values that were written (`number?`, whatever the form), and each
writer to produce the form that `Attribute.States` gives the slot for, or a row of entries
that all fit.

What is stated once, and into no record, stays as it is. A slot that states nothing adds
nothing to the slot that is stated, so under either policy this slot comes out exactly, and
the other fifteen are those of the empty record (`mergeAttribute_none_of_states`). An
encoding brings the names of its positions with it, so its set comes out exactly, too.
-/
import ApiAvailability.Attribute.Binding
import ApiAvailability.Proofs.AggregateFacts
import ApiAvailability.Proofs.OnePlatform

set_option autoImplicit false

namespace ApiAvailability

/-! ## Arguments -/

namespace Argument

theorem byte?_of_number? {a : Argument} {b : UInt8} (h : a.number? = some (b.toNat : Int)) :
    a.byte? = some b := by
  have hb := b.toNat_lt
  have hrange : 0 ≤ (b.toNat : Int) ∧ (b.toNat : Int) < UInt8.size := by
    simp only [UInt8.size]
    omega
  rw [byte?, h, Option.bind_some, if_pos hrange, Int.toNat_natCast, UInt8.ofNat_toNat]

theorem byte?_byte (b : UInt8) : (byte b).byte? = some b :=
  byte?_of_number? rfl

/-- A byte that is written as a signed integer is read as the byte. -/
theorem byte?_int (b : UInt8) : (int (Int64.ofNat b.toNat)).byte? = some b := by
  have hb := b.toNat_lt
  apply byte?_of_number?
  show some (Int64.ofNat b.toNat).toInt = some (b.toNat : Int)
  rw [Int64.toInt_ofNat_of_lt (by omega)]

theorem encoding?_ulong (e : UInt64) : (ulong e).encoding? = some e := by
  rw [encoding?_eq_of_number? (n := (e.toNat : Int)) rfl (Int.natCast_nonneg _),
    Int.toNat_natCast, UInt64.ofNat_toNat]

theorem text?_getD_null (message : Option String) :
    ((message.map str).getD null).text? = message := by
  cases message with
  | none => rfl
  | some text => rfl

end Argument

/-! ## One slot, stated once -/

namespace Record

/-- The record has the slot in the place of its kind and platform, and in its fifteen other
places nothing is stated. -/
def HoldsOnly (r : Record) (k : FactKind) (s : Slot) : Prop :=
  ∀ l p, p.isConcrete → r.slot l p = some (if l = k ∧ p = s.platform then s else .unspecified p)

theorem slot_empty (k : FactKind) {p : Platform} (h : p.isConcrete) :
    Record.empty.slot k p = some (.unspecified p) := by
  cases p with
  | none => cases h
  | macOS => cases k <;> rfl
  | iOS => cases k <;> rfl
  | watchOS => cases k <;> rfl
  | tvOS => cases k <;> rfl

/-- **What is stated into no record stays as it is.** -/
theorem mergeAttribute_none_of_states (policy : ConflictPolicy) {a : Attribute} {k : FactKind}
    {s : Slot} {m : Option String} (h : a.States k s m) :
    ∃ r, mergeAttribute policy none a = .ok (some r) ∧ r.HoldsOnly k s ∧ r.message = m := by
  obtain ⟨r, hr, ⟨old, hold, hslot⟩, hothers, hmessage⟩ := mergeAttribute_of_states policy none h
  refine ⟨r, hr, ?_, ?_⟩
  · intro l p hp
    by_cases hplace : l = k ∧ p = s.platform
    · obtain ⟨rfl, rfl⟩ := hplace
      -- The slot that was there states nothing and names the same platform.
      have hempty := hold.symm.trans (slot_empty l hp)
      rw [if_pos ⟨rfl, rfl⟩, hslot, Option.some.inj hempty, policy.unspecified_combine]
      rfl
    · rw [if_neg hplace, hothers l p hplace]
      exact slot_empty l hp
  · rw [hmessage]
    exact Option.or_none

end Record

/-! ## The writers -/

namespace Attribute

/-- In the bare namespace the type alone decides. -/
theorem shape_of_interopScope {a : Attribute} (h : a.scope = Shape.interopScope) :
    a.shape = Shape.ofInteropType a.typeName := by
  have hadvice : Shape.interopScope ≠ Shape.adviceScope := by decide
  have hinner : innermostScope Shape.interopScope = Shape.interopScope := by decide
  unfold shape
  rw [h, if_neg fun hboth => hadvice hboth.1, if_pos hinner]

theorem shape_single (k : FactKind) (p : Platform) (major minor : UInt8) (arch : Architecture)
    (message : Option String) : (single k p major minor arch message).shape = .single k := by
  have htype : Shape.ofInteropType (k.name ++ "Attribute") = .single k := by
    cases k <;> decide
  exact (shape_of_interopScope rfl).trans htype

theorem shape_aggregate (encodings : List UInt64) : (aggregate encodings).shape = .aggregate :=
  shape_of_interopScope rfl

/-- A fact is written in the form with two parts of a version. -/
theorem states_single (k : FactKind) {p : Platform} (hp : p.isConcrete) (major minor : UInt8)
    (arch : Architecture) (message : Option String) :
    (single k p major minor arch message).States k ⟨p, arch, major, minor, 0⟩ message := by
  have hstates := States.twoParts (shape_single k p major minor arch message) rfl
    (Argument.byte?_byte p.toByte) hp (Argument.byte?_int major) (Argument.byte?_int minor)
    (Argument.byte?_byte arch.bits)
  rwa [Argument.text?_getD_null] at hstates

theorem states_ios (major minor : UInt8) :
    (ios major minor).States .introduced ⟨.iOS, .unstated, major, minor, 0⟩ none :=
  .version (shape_of_interopScope rfl) rfl (Argument.byte?_byte major) (Argument.byte?_byte minor)

theorem states_mac (major minor : UInt8) (only64 : Bool) :
    (mac major minor only64).States .introduced
      ⟨.macOS, if only64 then .arch64 else .unstated, major, minor, 0⟩ none :=
  .flaggedVersion (shape_of_interopScope rfl) rfl (Argument.byte?_byte major)
    (Argument.byte?_byte minor)

/-- A fact for no platform is an error. -/
theorem unknownByte?_single_none (k : FactKind) (major minor : UInt8) (arch : Architecture)
    (message : Option String) :
    (single k .none major minor arch message).unknownByte? = some 0 := by
  rw [unknownByte?, shape_single]
  rfl

theorem fitsEncodings_aggregate (encodings : List UInt64) :
    (aggregate encodings).FitsEncodings := by
  refine ⟨fun v hv => ?_, fun n hn => nomatch hn⟩
  obtain ⟨e, -, rfl⟩ := List.mem_map.1 (List.mem_of_mem_take hv)
  rw [← Argument.isSome_encoding?, Argument.encoding?_ulong]
  rfl

/-- The encoding for a kind is the one in the place of the kind. -/
theorem encodings_aggregate (encodings : List UInt64) (k : FactKind) :
    ((aggregate encodings).valuesFor k).filterMap Argument.encoding? =
      encodings[k.position]?.toList := by
  have hvalues : (aggregate encodings).valuesFor k =
      (encodings[k.position]?.map Argument.ulong).toList := by
    show (encodings.map Argument.ulong)[k.position]?.toList ++ [] = _
    rw [List.append_nil, List.getElem?_map]
  rw [hvalues]
  cases encodings[k.position]? with
  | none => rfl
  | some e => simp [Argument.encoding?_ulong]

/-- Encodings behind the fourth are not looked at. -/
theorem reading_aggregate_take (encodings : List UInt64) :
    (aggregate (encodings.take 4)).reading = (aggregate encodings).reading := by
  have hentries : (aggregate (encodings.take 4)).entries = (aggregate encodings).entries := by
    show FactKind.all.zip ((encodings.take 4).map Argument.ulong) ++ [] =
      FactKind.all.zip (encodings.map Argument.ulong) ++ []
    rw [List.map_take, zip_all_take]
  rw [reading_of_aggregate (shape_aggregate _), reading_of_aggregate (shape_aggregate _), hentries]
  rfl

end Attribute

namespace Record

/-- **What was written as encodings is read as their sets.** -/
theorem mergeAttribute_none_aggregate (policy : ConflictPolicy) (encodings : List UInt64) :
    ∃ r, mergeAttribute policy none (.aggregate encodings) = .ok (some r) ∧
      (∀ k, r.facts k = (encodings[k.position]?.map SlotSet.ofEncoding).getD .empty) ∧
      r.message = none := by
  obtain ⟨sets, hsets, hreading⟩ := Attribute.exists_reading_of_fitsEncodings
    (Attribute.shape_aggregate encodings) (Attribute.fitsEncodings_aggregate encodings)
  refine ⟨_, by rw [mergeAttribute, hreading], fun k => ?_, ?_⟩
  · have hempty : Record.empty.facts k = .empty := by
      cases k <;> rfl
    rw [Facts.facts_applyTo]
    show ((sets.filter fun s => s.1 = k).map Prod.snd).foldl (SlotSet.merge policy)
      (Record.empty.facts k) = _
    rw [Facts.foldl_merge_of_ofEntries? hsets, Attribute.map_snd_filter_entries,
      Attribute.encodings_aggregate, hempty]
    cases encodings[k.position]? with
    | none => rfl
    | some e =>
      show SlotSet.empty.merge policy (.ofEncoding e) = .ofEncoding e
      rw [SlotSet.empty_merge, SlotSet.byPosition_of_namesMatch (SlotSet.namesMatch_ofEncoding e)]
  · rw [Facts.message_applyTo]
    rfl

/-- **What is written is read back,** under either policy. A fact for a platform gives a
record with its one slot, exactly as written, and with its message; a fact for no platform
is an error that names the type and the byte zero. The short forms for iOS and macOS give
the slot of an introduction, limited to 64-bit if they say so. And encodings give their
sets for the kinds in whose places they stand, while those behind the fourth make no
difference. -/
theorem mergeAttribute_written (policy : ConflictPolicy) :
    (∀ k p major minor arch message, p.isConcrete → ∃ r,
      mergeAttribute policy none (.single k p major minor arch message) = .ok (some r) ∧
      r.HoldsOnly k ⟨p, arch, major, minor, 0⟩ ∧ r.message = message) ∧
    (∀ k major minor arch message,
      mergeAttribute policy none (.single k .none major minor arch message) =
        .error ⟨k.name ++ "Attribute", 0⟩) ∧
    (∀ major minor, ∃ r, mergeAttribute policy none (.ios major minor) = .ok (some r) ∧
      r.HoldsOnly .introduced ⟨.iOS, .unstated, major, minor, 0⟩ ∧ r.message = none) ∧
    (∀ major minor only64, ∃ r,
      mergeAttribute policy none (.mac major minor only64) = .ok (some r) ∧
      r.HoldsOnly .introduced
        ⟨.macOS, if only64 then .arch64 else .unstated, major, minor, 0⟩ ∧ r.message = none) ∧
    (∀ encodings, ∃ r, mergeAttribute policy none (.aggregate encodings) = .ok (some r) ∧
      (∀ k, r.facts k = (encodings[k.position]?.map SlotSet.ofEncoding).getD .empty) ∧
      r.message = none) ∧
    ∀ encodings, mergeAttribute policy none (.aggregate encodings) =
      mergeAttribute policy none (.aggregate (encodings.take 4)) := by
  refine ⟨fun k p major minor arch message hp => ?_, fun k major minor arch message => ?_,
    fun major minor => ?_, fun major minor only64 => ?_, mergeAttribute_none_aggregate policy,
    fun encodings => ?_⟩
  · exact mergeAttribute_none_of_states policy
      (Attribute.states_single k hp major minor arch message)
  · rw [mergeAttribute_eq_error_iff]
    exact ⟨0, Attribute.unknownByte?_single_none k major minor arch message, rfl⟩
  · exact mergeAttribute_none_of_states policy (Attribute.states_ios major minor)
  · exact mergeAttribute_none_of_states policy (Attribute.states_mac major minor only64)
  · rw [mergeAttribute, mergeAttribute, Attribute.reading_aggregate_take]
    rfl

/-- The greatest version with both named architectures and an empty message. -/
theorem mergeAttribute_written_tvOS :
    Platform.tvOS.isConcrete ∧ ∃ r, mergeAttribute .preferNewest none
        (.single .obsoleted .tvOS 255 255 (.union .arch32 .arch64) (some "")) = .ok (some r) ∧
      r.HoldsOnly .obsoleted ⟨.tvOS, ⟨3⟩, 255, 255, 0⟩ ∧ r.message = some "" := by
  have hconcrete : Platform.tvOS.isConcrete := by decide
  obtain ⟨hsingle, -⟩ := mergeAttribute_written .preferNewest
  exact ⟨hconcrete, hsingle .obsoleted .tvOS 255 255 (.union .arch32 .arch64) (some "") hconcrete⟩

end Record

end ApiAvailability
