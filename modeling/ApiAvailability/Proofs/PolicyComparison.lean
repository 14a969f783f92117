/-
What the choice of the conflict policy changes in what is reported.

Two runs over the same attributes are compared, one that takes the later version
and one that unites the bits. Slot by slot the second is a blend of what the
first keeps (`Slot.BlendOf`): it has the same mask, a version that is no earlier,
and no version only where the first has none. A step keeps this, because a union
of bits is no earlier than either side while the later version is one of the
sides. So the same facts are stated in both runs, the same attributes fail, and
both runs ask the declaring type or neither does (`collect_policies`).

What is reported differs in one way only. Advice is the same, and so is whether
an API is unavailable, obsoleted or deprecated; but a blend can be newer than
the target where no stated version is, and then the use is reported as too new
under the second policy alone (`codesFor_bitwiseOr`).
-/
import ApiAvailability.Attribute.Binding
import ApiAvailability.Proofs.Decision
import ApiAvailability.Proofs.SiteGathering
import ApiAvailability.Proofs.SlotLattice
import ApiAvailability.Proofs.UseReport

set_option autoImplicit false

namespace ApiAvailability

/-! ## Blends -/

namespace Slot

/-- The first slot has the mask of the second one and no earlier version, and it
has a version only if the second one has. -/
structure BlendOf (blend s : Slot) : Prop where
  mask : blend.arch = s.arch
  version : s.versionNumber ≤ blend.versionNumber
  unversioned : s.versionNumber = 0 → blend.versionNumber = 0

theorem BlendOf.refl (s : Slot) : s.BlendOf s := ⟨rfl, Nat.le_refl _, id⟩

theorem BlendOf.isSpecified_iff {blend s : Slot} (h : blend.BlendOf s) :
    blend.isSpecified ↔ s.isSpecified := by
  have hversion := h.version
  have hunversioned := h.unversioned
  have hstated : blend.versionNumber ≠ 0 ↔ s.versionNumber ≠ 0 := by omega
  rw [Slot.isSpecified_iff, Slot.isSpecified_iff, h.mask, hstated]

/-- A union has no version only if neither side has one. -/
theorem versionNumber_union_eq_zero {s t : Slot} (hs : s.versionNumber = 0)
    (ht : t.versionNumber = 0) : (s.union t).versionNumber = 0 := by
  have hzero : ∀ r : Slot, r.versionNumber = 0 → r.major = 0 ∧ r.minor = 0 ∧ r.subminor = 0 := by
    intro r hr
    unfold versionNumber at hr
    simp only [← UInt8.toNat_inj]
    have h0 : (0 : UInt8).toNat = 0 := rfl
    omega
  obtain ⟨hs1, hs2, hs3⟩ := hzero s hs
  obtain ⟨ht1, ht2, ht3⟩ := hzero t ht
  simp [versionNumber, union, hs1, hs2, hs3, ht1, ht2, ht3]

/-- The union of a blend with a slot is a blend of the later of both. -/
theorem BlendOf.combine {blend s : Slot} (h : blend.BlendOf s) (t : Slot) :
    (ConflictPolicy.bitwiseOr.combine blend t).BlendOf
      (ConflictPolicy.preferNewest.combine s t) where
  mask := by rw [ConflictPolicy.arch_combine, ConflictPolicy.arch_combine, h.mask]
  version := by
    show (s.newest t).versionNumber ≤ (blend.union t).versionNumber
    rw [versionNumber_newest]
    exact Nat.max_le.2 ⟨Nat.le_trans h.version (versionNumber_le_union_left blend t),
      versionNumber_le_union_right blend t⟩
  unversioned := by
    show (s.newest t).versionNumber = 0 → (blend.union t).versionNumber = 0
    rw [versionNumber_newest]
    intro hzero
    exact versionNumber_union_eq_zero (h.unversioned (by omega)) (by omega)

end Slot

/-- In a run of unions every slot is a blend of the slot that a run of later
versions keeps. -/
theorem SlotSet.blendOf_foldl_merge (l : List SlotSet) (t : SlotSet) {p : Platform}
    {blend s : Slot} (hblend : (l.foldl (merge .bitwiseOr) t).get p = some blend)
    (hs : (l.foldl (merge .preferNewest) t).get p = some s) : blend.BlendOf s := by
  refine List.foldl_rel
    (r := fun u v : SlotSet => ∀ blend s, u.get p = some blend → v.get p = some s →
      blend.BlendOf s) ?_ ?_ blend s hblend hs
  · intro blend s hblend hs
    rw [hblend] at hs
    cases hs
    exact .refl blend
  · -- The sets that are combined with the two runs are the same.
    rintro w - u v ih blend s hblend hs
    obtain ⟨blend', b, hblend', hb, rfl⟩ := exists_of_get_merge hblend
    obtain ⟨s', b', hs', hb', rfl⟩ := exists_of_get_merge hs
    rw [hb] at hb'
    cases hb'
    exact (ih blend' s' hblend' hs').combine b

/-! ## Records of blends -/

theorem SlotSet.isSpecified_iff (t : SlotSet) :
    t.isSpecified ↔ ∃ p, t.isSpecifiedFor p := by
  constructor
  · intro h
    obtain ⟨s, hs, hspecified⟩ := List.any_eq_true.1 h
    obtain ⟨p, hp⟩ := (t.mem_slots_iff s).1 hs
    exact ⟨p, (t.isSpecifiedFor_iff p).2 ⟨s, hp, hspecified⟩⟩
  · rintro ⟨p, h⟩
    exact isSpecified_of_isSpecifiedFor h

namespace Record

/-- A record states something by a fact for some platform or by its message. -/
theorem isSpecified_iff (r : Record) :
    r.isSpecified ↔ (∃ k p, r.isSpecifiedFor k p) ∨ r.message.isSome := by
  simp only [isSpecified, Bool.or_eq_true, List.any_eq_true, SlotSet.isSpecified_iff]
  constructor
  · rintro (⟨k, -, p, h⟩ | h)
    · exact Or.inl ⟨k, p, h⟩
    · exact Or.inr h
  · rintro (⟨k, p, h⟩ | h)
    · exact Or.inl ⟨k, by cases k <;> decide, p, h⟩
    · exact Or.inr h

/-- An absent record states as little as the empty one. -/
theorem any_isSpecified (record : Option Record) :
    record.any isSpecified = (record.getD .empty).isSpecified := by
  cases record with
  | none => rfl
  | some r => rfl

/-- Slot by slot the first record is a blend of the second one, and the messages
are the same; an absent record is read as the empty one. -/
structure BlendOf (blend record : Option Record) : Prop where
  slots : ∀ k p b s, (blend.getD .empty).slot k p = some b →
    (record.getD .empty).slot k p = some s → b.BlendOf s
  message : (blend.getD .empty).message = (record.getD .empty).message

/-- The same attributes make a blend under one policy of what they make under
the other. -/
theorem blendOf_gather (record : Option Record) (l : List Attribute) :
    BlendOf (gather .bitwiseOr record l) (gather .preferNewest record l) where
  slots := by
    intro k p b s hb hs
    rw [slot, facts_gather] at hb hs
    exact SlotSet.blendOf_foldl_merge _ _ hb hs
  message := by rw [message_gather, message_gather]

theorem BlendOf.isSpecifiedFor_iff {blend record : Option Record} (h : BlendOf blend record)
    (k : FactKind) (p : Platform) : (blend.getD .empty).isSpecifiedFor k p ↔
      (record.getD .empty).isSpecifiedFor k p := by
  rw [Record.isSpecifiedFor_iff, Record.isSpecifiedFor_iff]
  constructor
  · rintro ⟨b, hb, hspecified⟩
    obtain ⟨s, hs⟩ := ((record.getD .empty).facts k).exists_get (SlotSet.isConcrete_of_get hb)
    exact ⟨s, hs, (h.slots k p b s hb hs).isSpecified_iff.1 hspecified⟩
  · rintro ⟨s, hs, hspecified⟩
    obtain ⟨b, hb⟩ := ((blend.getD .empty).facts k).exists_get (SlotSet.isConcrete_of_get hs)
    exact ⟨b, hb, (h.slots k p b s hb hs).isSpecified_iff.2 hspecified⟩

theorem BlendOf.any_isSpecified {blend record : Option Record} (h : BlendOf blend record) :
    blend.any isSpecified = record.any isSpecified := by
  rw [Record.any_isSpecified, Record.any_isSpecified, Bool.eq_iff_iff, isSpecified_iff,
    isSpecified_iff, h.message]
  simp only [h.isSpecifiedFor_iff]

theorem filter_isSpecified (record : Option Record) :
    record.filter isSpecified = if record.any isSpecified then record else none := by
  cases record with
  | none => rfl
  | some r => rfl

/-- What states nothing is dropped on both sides or on neither. -/
theorem BlendOf.filter {blend record : Option Record} (h : BlendOf blend record) :
    BlendOf (blend.filter isSpecified) (record.filter isSpecified) := by
  rw [filter_isSpecified, filter_isSpecified, h.any_isSpecified]
  by_cases hspecified : record.any isSpecified
  · rw [if_pos hspecified, if_pos hspecified]
    exact h
  · rw [if_neg hspecified, if_neg hspecified]
    exact blendOf_gather none []

end Record

/-! ## The two decisions -/

namespace Advisory

variable {blend record : Option Record}

theorem isSome_deprecation?_of_blendOf (h : Record.BlendOf blend record) (p : Platform) :
    (deprecation? blend p).isSome = (deprecation? record p).isSome := by
  rw [Bool.eq_iff_iff, isSome_deprecation?_iff, isSome_deprecation?_iff]
  simp only [h.isSpecifiedFor_iff]

/-- What is too new stays so in a blend. -/
theorem isSome_introduction?_of_blendOf (h : Record.BlendOf blend record)
    (minimum : Option Deployment) (p : Platform)
    (hintroduction : (introduction? record minimum p).isSome) :
    (introduction? blend minimum p).isSome := by
  rw [isSome_introduction?_iff] at hintroduction ⊢
  obtain ⟨d, s, hd, hs, hspecified, hlater⟩ := hintroduction
  obtain ⟨b, hb⟩ := ((blend.getD .empty).facts .introduced).exists_get
    (SlotSet.isConcrete_of_get hs)
  have hblend := h.slots .introduced p b s hb hs
  exact ⟨d, b, hd, hb, hblend.isSpecified_iff.2 hspecified, Nat.lt_of_lt_of_le hlater hblend.version⟩

/-- Of a blend the same is said, or it alone is said to be too new. -/
theorem kind_advise?_of_blendOf (h : Record.BlendOf blend record) (minimum : Option Deployment)
    (p : Platform) :
    (advise? blend minimum p).map Advisory.kind = (advise? record minimum p).map Advisory.kind ∨
      (advise? record minimum p).map Advisory.kind = none ∧
        (advise? blend minimum p).map Advisory.kind = some .introducedLater := by
  rw [kind_advise?, kind_advise?, isSome_deprecation?_of_blendOf h]
  by_cases hdeprecation : (deprecation? record p).isSome
  · rw [if_pos hdeprecation, if_pos hdeprecation]
    exact Or.inl rfl
  · rw [if_neg hdeprecation, if_neg hdeprecation]
    by_cases hintroduction : (introduction? record minimum p).isSome
    · rw [if_pos hintroduction,
        if_pos (isSome_introduction?_of_blendOf h minimum p hintroduction)]
      exact Or.inl rfl
    · rw [if_neg hintroduction]
      by_cases hblend : (introduction? blend minimum p).isSome
      · exact Or.inr ⟨rfl, if_pos hblend⟩
      · exact Or.inl (if_neg hblend)

end Advisory

/-! ## Around a use -/

namespace UseSite

/-- Where the symbols that are visited first state nothing, the declaring type
fails in both runs with the same error, or makes a blend. -/
theorem collectOuter_policies (u : UseSite) :
    (∃ e, u.collectOuter .bitwiseOr = .error e ∧ u.collectOuter .preferNewest = .error e) ∨
    ∃ blend newest, u.collectOuter .bitwiseOr = .ok blend ∧
      u.collectOuter .preferNewest = .ok newest ∧ blend.advice = newest.advice ∧
      Record.BlendOf blend.record newest.record := by
  unfold collectOuter
  cases u.symbol.declaringType with
  | none => exact Or.inr ⟨_, _, rfl, rfl, rfl, Record.blendOf_gather none []⟩
  | some type =>
    cases herror : type.collectError? with
    | some e => exact Or.inl ⟨e, by simp only [herror], by simp only [herror]⟩
    | none =>
      simp only [herror]
      exact Or.inr ⟨_, _, rfl, rfl, rfl, (Record.blendOf_gather none type.attributes).filter⟩

/-- **Both runs around a use** fail with the same error, or they gather the same
advice, and a record that is a blend of the other. -/
theorem collect_policies (u : UseSite) :
    (∃ e, u.collect .bitwiseOr = .error e ∧ u.collect .preferNewest = .error e) ∨
    ∃ blend newest, u.collect .bitwiseOr = .ok blend ∧ u.collect .preferNewest = .ok newest ∧
      blend.advice = newest.advice ∧ Record.BlendOf blend.record newest.record := by
  rw [collect_eq, collect_eq]
  cases u.ownSymbols.findSome? Symbol.collectError? with
  | some e => exact Or.inl ⟨e, rfl, rfl⟩
  | none =>
    have hblend : Record.BlendOf (u.ownRecord .bitwiseOr) (u.ownRecord .preferNewest) :=
      Record.blendOf_gather none u.ownAttributes
    -- Neither run asks the declaring type unless the other one does.
    simp only [hblend.any_isSpecified]
    by_cases hspecified : (u.ownRecord .preferNewest).any Record.isSpecified
    · simp only [if_pos hspecified]
      exact Or.inr ⟨_, _, rfl, rfl, rfl, hblend⟩
    · simp only [if_neg hspecified]
      exact u.collectOuter_policies

theorem collect_eq_error_iff_policies (u : UseSite) (e : CollectError) :
    u.collect .bitwiseOr = .error e ↔ u.collect .preferNewest = .error e := by
  rcases u.collect_policies with ⟨e', hblend, hnewest⟩ | ⟨blend, newest, hblend, hnewest, -⟩
  · rw [hblend, hnewest]
  · rw [hblend, hnewest]
    constructor <;> intro h <;> cases h

/-- Nothing is gathered under any policy, or under both a blend and what it is a
blend of, with the same advice. -/
theorem gathered?_policies (u : UseSite) : (∀ policy, u.gathered? policy = none) ∨
    ∃ blend newest, u.gathered? .bitwiseOr = some blend ∧ u.gathered? .preferNewest = some newest ∧
      blend.advice = newest.advice ∧ Record.BlendOf blend.record newest.record := by
  by_cases hoperation : u.operation.isOfInterest
  · rcases u.collect_policies with
      ⟨e, hblend, hnewest⟩ | ⟨blend, newest, hblend, hnewest, hadvice, h⟩
    · left
      intro policy
      cases policy with
      | bitwiseOr => exact gathered?_of_collect_eq_error hblend
      | preferNewest => exact gathered?_of_collect_eq_error hnewest
    · right
      refine ⟨blend, newest, ?_, ?_, hadvice, h⟩
      · rw [gathered?, if_pos hoperation, hblend]
        rfl
      · rw [gathered?, if_pos hoperation, hnewest]
        rfl
  · exact Or.inl fun policy => if_neg hoperation

end UseSite

/-! ## Codes -/

namespace Settings

/-- The codes of the diagnostics for a use. -/
def codesFor (s : Settings) (u : UseSite) : List Code := (s.diagnosticsFor u).map Diagnostic.code

/-- The code of what is reported about the availability follows from the kind
of what there is to say. -/
theorem code_availabilityDiagnostic (s : Settings) (u : UseSite) (record : Option Record) :
    (s.availabilityDiagnostic u record).map Diagnostic.code =
      (((Advisory.advise? record s.minimum s.platform).map Advisory.kind).map
        AdvisoryKind.code).filter (· ∉ s.allow) := by
  unfold availabilityDiagnostic
  cases Advisory.advise? record s.minimum s.platform with
  | none => rfl
  | some a => exact code_report s _ _ _

/-- The codes for a use around which something is gathered: first those of the
advice, and at most one after them. The policy counts only for what is gathered. -/
theorem codesFor_of_gathered? {s : Settings} {policy : ConflictPolicy} {u : UseSite}
    {c : Collected} (h : u.gathered? policy = some c) :
    codesFor { s with policy := policy } u =
      (s.adviceDiagnostics u c.advice).map Diagnostic.code ++
        ((((Advisory.advise? c.record s.minimum s.platform).map Advisory.kind).map
          AdvisoryKind.code).filter (· ∉ s.allow)).toList := by
  have hadvice : adviceFor { s with policy := policy } u = s.adviceDiagnostics u c.advice := by
    simp only [adviceFor, h]
    rfl
  have havailability : availabilityFor { s with policy := policy } u =
      s.availabilityDiagnostic u c.record := by
    simp only [availabilityFor, h]
    rfl
  rw [codesFor, diagnosticsFor_eq_append, hadvice, havailability, List.map_append,
    ← Option.toList_map, code_availabilityDiagnostic]

/-- The second run reports what the first one does, perhaps with a use that is
too new on top. -/
theorem codesFor_bitwiseOr (s : Settings) (u : UseSite) :
    codesFor { s with policy := .bitwiseOr } u = codesFor { s with policy := .preferNewest } u ∨
    codesFor { s with policy := .bitwiseOr } u =
      codesFor { s with policy := .preferNewest } u ++ [AdvisoryKind.introducedLater.code] := by
  rcases u.gathered?_policies with hnone | ⟨blend, newest, hblend, hnewest, hadvice, h⟩
  · left
    rw [codesFor, codesFor, diagnosticsFor_of_gathered?_eq_none (hnone _),
      diagnosticsFor_of_gathered?_eq_none (hnone _)]
  · rw [codesFor_of_gathered? hblend, codesFor_of_gathered? hnewest, hadvice]
    rcases Advisory.kind_advise?_of_blendOf h s.minimum s.platform with hkind | ⟨hnone, hlater⟩
    · left
      rw [hkind]
    · rw [hnone, hlater]
      -- On top of the advice there is nothing in the first run, and in the
      -- second one what the settings leave of the code.
      by_cases hallow : AdvisoryKind.introducedLater.code ∈ s.allow
      · left
        simp [Option.filter, hallow]
      · right
        simp [Option.filter, hallow]

/-- **The policies compared at a use.** If bits are united, the codes are those
for the later versions, or these and after them that of a use that is too new.
So no diagnostic is lost, whether a use is reported as unavailable, obsoleted or
deprecated does not depend on the policy, and neither does what cannot be
gathered. -/
theorem codesFor_policies (s : Settings) (u : UseSite) :
    let newest := codesFor { s with policy := .preferNewest } u
    let blended := codesFor { s with policy := .bitwiseOr } u
    (blended = newest ∨ blended = newest ++ [AdvisoryKind.introducedLater.code]) ∧
    newest <+: blended ∧
    (AdvisoryKind.deprecatedOrObsoleted.code ∈ blended ↔
      AdvisoryKind.deprecatedOrObsoleted.code ∈ newest) ∧
    ∀ e, u.collect .bitwiseOr = .error e ↔ u.collect .preferNewest = .error e := by
  intro newest blended
  have hcodes : blended = newest ∨ blended = newest ++ [AdvisoryKind.introducedLater.code] :=
    codesFor_bitwiseOr s u
  refine ⟨hcodes, ?_, ?_, u.collect_eq_error_iff_policies⟩
  · rcases hcodes with heq | heq
    · exact heq ▸ List.prefix_rfl
    · exact heq ▸ List.prefix_append ..
  · have hne : AdvisoryKind.deprecatedOrObsoleted.code ≠ AdvisoryKind.introducedLater.code := by
      decide
    rcases hcodes with heq | heq
    · rw [heq]
    · rw [heq, List.mem_append, List.mem_singleton, or_iff_left hne]

-- iOS 9 and iOS 10 blend into iOS 11, which is too new for iOS 10.
example :
    let u : UseSite :=
      ⟨{ Symbol.plain "symbol" .method with attributes := [.ios 9 0, .ios 10 0] }, .invocation,
        .read, none⟩
    (diagnosticsFor ⟨.iOS, some ⟨10, 0, 0⟩, .preferNewest, [], []⟩ u).map Diagnostic.code = [] ∧
    (diagnosticsFor ⟨.iOS, some ⟨10, 0, 0⟩, .bitwiseOr, [], []⟩ u).map Diagnostic.code =
      [⟨.apple, 1002⟩] := by
  decide

end Settings

end ApiAvailability
