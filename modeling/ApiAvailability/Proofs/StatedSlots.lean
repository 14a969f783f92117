/-
What attributes state, slot by slot.

An attribute states a slot for a kind and a platform in one of two ways: by one of the
forms about one platform, or by the half of an encoding that is about this platform
(`Attribute.StatesSlot`). Whoever reads the attribute turns either into whole sets, whose
other slots are fillers that state nothing; apart from these the slots of the sets are
the ones that the attribute states (`exists_mem_setsOf_of_statesSlot`,
`statesSlot_of_mem_setsOf`).

Sets are combined position by position, so a slot of what is gathered is a run over the
slots that stand in its position (`slot_gather_none`). For the mask nothing more is
needed, under either policy: a bit of it is a bit of one of the stated masks
(`hasBit_slot_gather_none`), since a filler has none.
-/
import ApiAvailability.Proofs.AggregateFacts
import ApiAvailability.Proofs.OnePlatform

set_option autoImplicit false

namespace ApiAvailability

/-! ## The slots that one attribute states -/

namespace Attribute

/-- The attribute states the slot for the kind and the platform. -/
inductive StatesSlot (a : Attribute) (k : FactKind) (p : Platform) : Slot → Prop
  /-- By a form about this platform. -/
  | form {s : Slot} {m : Option String} : a.States k s m → s.platform = p → a.StatesSlot k p s
  /-- By an encoding for this kind, in which something is said of this platform. -/
  | encoding {v : Argument} {e : UInt64} {s : Slot} :
    a.shape = .aggregate → a.FitsEncodings → v ∈ a.valuesFor k → v.encoding? = some e →
    (SlotSet.ofEncoding e).get p = some s → s.isSpecified → a.StatesSlot k p s

/-- One of the attributes states the slot for the kind and the platform. -/
def StatedIn (l : List Attribute) (k : FactKind) (p : Platform) (s : Slot) : Prop :=
  ∃ a ∈ l, a.StatesSlot k p s

end Attribute

/-! ## The slots that are read -/

namespace Facts

/-- The sets that are read are those of the encodings that are not zero. -/
theorem mem_ofEntries?_iff {l : List (FactKind × Argument)} {sets : List (FactKind × SlotSet)}
    (h : ofEntries? l = some sets) (k : FactKind) (t : SlotSet) : (k, t) ∈ sets ↔
      ∃ v e, (k, v) ∈ l ∧ v.encoding? = some e ∧ e ≠ 0 ∧ t = .ofEncoding e := by
  induction l generalizing sets with
  | nil =>
    cases h
    simp
  | cons entry l ih =>
    obtain ⟨k', v'⟩ := entry
    obtain ⟨e', he', hrest⟩ := Option.bind_eq_some_iff.1 h
    obtain ⟨others, hothers, hsets⟩ := Option.bind_eq_some_iff.1 hrest
    cases hsets
    have hfirst : (k, t) ∈ ofEncoding k' e' ↔ k = k' ∧ e' ≠ 0 ∧ t = .ofEncoding e' := by
      by_cases hzero : e' = 0
      · simp [ofEncoding, hzero]
      · simp [ofEncoding, hzero]
    rw [List.mem_append, hfirst, ih hothers]
    constructor
    · rintro (⟨rfl, hzero, rfl⟩ | ⟨v, e, hv, he⟩)
      · exact ⟨v', e', List.mem_cons_self .., he', hzero, rfl⟩
      · exact ⟨v, e, List.mem_cons_of_mem _ hv, he⟩
    · rintro ⟨v, e, hv, he, hzero, rfl⟩
      rcases List.mem_cons.1 hv with heq | hv
      · obtain ⟨rfl, rfl⟩ := Prod.mk.inj heq
        rw [he'] at he
        cases he
        exact Or.inl ⟨rfl, hzero, rfl⟩
      · exact Or.inr ⟨v, e, hv, he, hzero, rfl⟩

theorem mem_setsOf_iff (facts : Facts) (k : FactKind) (t : SlotSet) :
    t ∈ facts.setsOf k ↔ (k, t) ∈ facts.sets := by
  rw [setsOf, List.mem_map]
  constructor
  · rintro ⟨⟨k', t'⟩, hmem, rfl⟩
    obtain ⟨hsets, hk⟩ := List.mem_filter.1 hmem
    obtain rfl : k' = k := by simpa using hk
    exact hsets
  · intro hsets
    exact ⟨(k, t), List.mem_filter.2 ⟨hsets, by simp⟩, rfl⟩

end Facts

namespace Attribute

variable {a : Attribute} {k : FactKind} {p : Platform} {s : Slot}

theorem mem_entries_iff (v : Argument) : (k, v) ∈ a.entries ↔ v ∈ a.valuesFor k := by
  rw [← map_snd_filter_entries, List.mem_map]
  constructor
  · intro h
    exact ⟨(k, v), List.mem_filter.2 ⟨h, by simp⟩, rfl⟩
  · rintro ⟨⟨k', v'⟩, hmem, rfl⟩
    obtain ⟨hentries, hk⟩ := List.mem_filter.1 hmem
    obtain rfl : k' = k := by simpa using hk
    exact hentries

/-- **What is stated is read.** -/
theorem exists_mem_setsOf_of_statesSlot (h : a.StatesSlot k p s) :
    ∃ facts, a.facts? = some facts ∧ ∃ t ∈ facts.setsOf k, t.get p = some s := by
  cases h with
  | form hstates hp =>
    refine ⟨_, facts?_of_states hstates, .single s, ?_, ?_⟩
    · rw [Facts.mem_setsOf_iff]
      exact List.mem_singleton_self _
    · rw [SlotSet.get_single hstates.isConcrete, if_pos hp.symm]
  | @encoding v e _ hshape hfits hv he hget hspecified =>
    obtain ⟨sets, hsets, hreading⟩ := exists_reading_of_fitsEncodings hshape hfits
    -- Zero would have stood for the empty set.
    have hzero : e ≠ 0 := by
      rintro rfl
      have hempty : SlotSet.ofEncoding 0 = .empty := by decide
      rw [hempty] at hget
      exact SlotSet.not_isSpecified_of_get_empty hget hspecified
    refine ⟨_, by rw [facts?, hreading], .ofEncoding e, ?_, hget⟩
    rw [Facts.mem_setsOf_iff, Facts.mem_ofEntries?_iff hsets]
    exact ⟨v, e, (mem_entries_iff v).2 hv, he, hzero, rfl⟩

theorem statesSlot_of_isOnePlatform {facts : Facts} (h : a.IsOnePlatform)
    (hfacts : a.facts? = some facts) {t : SlotSet} (ht : t ∈ facts.setsOf k)
    (hs : t.get p = some s) (hspecified : s.isSpecified) : a.StatesSlot k p s := by
  by_cases hforms : ∃ k' s' m, a.States k' s' m
  · obtain ⟨k', s', m, hstates⟩ := hforms
    rw [facts?_of_states hstates] at hfacts
    cases hfacts
    rw [Facts.mem_setsOf_iff, List.mem_singleton] at ht
    obtain ⟨rfl, rfl⟩ := Prod.mk.inj ht
    rw [SlotSet.get_single hstates.isConcrete] at hs
    by_cases hp : p = s'.platform
    · rw [if_pos hp] at hs
      cases hs
      exact .form hstates hp.symm
    · rw [if_neg hp] at hs
      exact absurd hspecified (SlotSet.not_isSpecified_of_get_empty hs)
  · simp only [not_exists] at hforms
    rw [facts?_eq_none_of_not_states h hforms] at hfacts
    cases hfacts

/-- **What is read was stated,** unless it is a filler. -/
theorem statesSlot_of_mem_setsOf {facts : Facts} (hfacts : a.facts? = some facts) {t : SlotSet}
    (ht : t ∈ facts.setsOf k) (hs : t.get p = some s) (hspecified : s.isSpecified) :
    a.StatesSlot k p s := by
  cases hshape : a.shape with
  | shorthand q =>
    exact statesSlot_of_isOnePlatform (Or.inl ⟨q, hshape⟩) hfacts ht hs hspecified
  | single k' =>
    exact statesSlot_of_isOnePlatform (Or.inr ⟨k', hshape⟩) hfacts ht hs hspecified
  | aggregate =>
    by_cases hfits : a.FitsEncodings
    · obtain ⟨sets, hsets, hreading⟩ := exists_reading_of_fitsEncodings hshape hfits
      rw [facts?, hreading] at hfacts
      cases hfacts
      rw [Facts.mem_setsOf_iff, Facts.mem_ofEntries?_iff hsets] at ht
      obtain ⟨v, e, hv, he, -, rfl⟩ := ht
      exact .encoding hshape hfits ((mem_entries_iff v).1 hv) he hs hspecified
    · rw [facts?, reading_of_not_fitsEncodings hshape hfits] at hfacts
      cases hfacts
  | advice =>
    rw [facts?, reading, hshape] at hfacts
    cases hfacts
  | unrecognized =>
    rw [facts?, reading, hshape] at hfacts
    cases hfacts

/-! ## The slots that a run is over -/

/-- The slots for the kind that stand in the position of the platform, fillers included. -/
def slotsRead (l : List Attribute) (k : FactKind) (p : Platform) : List Slot :=
  (statedSets k l).filterMap fun t => t.get p

variable {l : List Attribute}

theorem mem_slotsRead_iff : s ∈ slotsRead l k p ↔
    ∃ a ∈ l, ∃ facts, a.facts? = some facts ∧ ∃ t ∈ facts.setsOf k, t.get p = some s := by
  simp only [slotsRead, statedSets, List.mem_filterMap, List.mem_flatMap]
  constructor
  · rintro ⟨t, ⟨facts, ⟨a, ha, hfacts⟩, ht⟩, hs⟩
    exact ⟨a, ha, facts, hfacts, t, ht, hs⟩
  · rintro ⟨a, ha, facts, hfacts, t, ht, hs⟩
    exact ⟨t, ⟨facts, ⟨a, ha, hfacts⟩, ht⟩, hs⟩

theorem mem_slotsRead_of_statedIn (h : StatedIn l k p s) : s ∈ slotsRead l k p := by
  obtain ⟨a, ha, hstates⟩ := h
  exact mem_slotsRead_iff.2 ⟨a, ha, exists_mem_setsOf_of_statesSlot hstates⟩

theorem statedIn_of_mem_slotsRead (h : s ∈ slotsRead l k p) (hspecified : s.isSpecified) :
    StatedIn l k p s := by
  obtain ⟨a, ha, facts, hfacts, t, ht, hs⟩ := mem_slotsRead_iff.1 h
  exact ⟨a, ha, statesSlot_of_mem_setsOf hfacts ht hs hspecified⟩

end Attribute

/-! ## The slots that are gathered -/

/-- Sets are combined position by position. -/
theorem SlotSet.get_foldl_merge (policy : ConflictPolicy) (l : List SlotSet) (t : SlotSet)
    (p : Platform) : (l.foldl (merge policy) t).get p =
      (t.get p).map fun s => (l.filterMap fun u => u.get p).foldl policy.combine s := by
  induction l generalizing t with
  | nil => simp
  | cons u l ih =>
    rw [List.foldl_cons, ih, get_merge]
    cases hs : t.get p with
    | none => rfl
    | some s =>
      obtain ⟨v, hv⟩ := u.exists_get (isConcrete_of_get hs)
      have hcons : (u :: l).filterMap (fun u => u.get p) = v :: l.filterMap (fun u => u.get p) :=
        List.filterMap_cons_some hv
      rw [hcons, hv]
      rfl

/-- **A slot that is gathered from nothing** is a run over the slots in its position. -/
theorem Record.slot_gather_none (policy : ConflictPolicy) (l : List Attribute) (k : FactKind)
    {p : Platform} (hp : p.isConcrete) : ((gather policy none l).getD .empty).slot k p =
      some ((Attribute.slotsRead l k p).foldl policy.combine (.unspecified p)) := by
  have hempty : (Record.empty.facts k).get p = some (.unspecified p) := by
    cases k <;> cases p <;> first | rfl | cases hp
  rw [slot, facts_gather, SlotSet.get_foldl_merge, Option.getD_none, hempty]
  rfl

/-! ## Masks, bit by bit -/

namespace Architecture

/-- Whether the bit with this number is set. -/
def hasBit (a : Architecture) (i : Nat) : Bool := a.bits.toNat.testBit i

theorem hasBit_union (a b : Architecture) (i : Nat) :
    (a.union b).hasBit i = (a.hasBit i || b.hasBit i) := by
  rw [hasBit, union, UInt8.toNat_or, Nat.testBit_or]
  rfl

theorem hasBit_unstated (i : Nat) : unstated.hasBit i = false := Nat.zero_testBit i

end Architecture

theorem Slot.isSpecified_of_hasBit {s : Slot} {i : Nat} (h : s.arch.hasBit i) :
    s.isSpecified := by
  rw [isSpecified_iff]
  refine Or.inl fun hzero => ?_
  have hnone : s.arch.hasBit i = false := by
    rw [Architecture.hasBit, hzero]
    exact Nat.zero_testBit i
  rw [hnone] at h
  exact absurd h (by decide)

theorem ConflictPolicy.hasBit_foldl_combine (policy : ConflictPolicy) (l : List Slot) (s : Slot)
    (i : Nat) : (l.foldl policy.combine s).arch.hasBit i =
      (s.arch.hasBit i || l.any fun t => t.arch.hasBit i) := by
  induction l generalizing s with
  | nil => simp
  | cons t l ih =>
    rw [List.foldl_cons, ih, arch_combine, Architecture.hasBit_union, List.any_cons, Bool.or_assoc]

/-- **A bit of the mask that is gathered** is a bit of one of the masks that are stated. -/
theorem Record.hasBit_slot_gather_none (policy : ConflictPolicy) {l : List Attribute}
    {k : FactKind} {p : Platform} {r : Slot}
    (hr : ((gather policy none l).getD .empty).slot k p = some r) (i : Nat) :
    r.arch.hasBit i ↔ ∃ s, Attribute.StatedIn l k p s ∧ s.arch.hasBit i := by
  have hp : p.isConcrete := SlotSet.isConcrete_of_get hr
  rw [slot_gather_none policy l k hp] at hr
  cases hr
  rw [ConflictPolicy.hasBit_foldl_combine, Slot.arch_unspecified, Architecture.hasBit_unstated,
    Bool.false_or, List.any_eq_true]
  constructor
  · rintro ⟨s, hs, hbit⟩
    exact ⟨s, Attribute.statedIn_of_mem_slotsRead hs (Slot.isSpecified_of_hasBit hbit), hbit⟩
  · rintro ⟨s, hs, hbit⟩
    exact ⟨s, Attribute.mem_slotsRead_of_statedIn hs, hbit⟩

end ApiAvailability
