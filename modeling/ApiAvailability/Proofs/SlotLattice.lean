/-
The two ways of combining slots, and sets of slots, as semilattices.

Under either policy the combination of two slots is associative and idempotent,
and a slot that states nothing adds nothing on the right. What is not symmetric
is the platform alone: a combination names the platform of its first slot. So
the combination is commutative, and a slot that states nothing adds nothing on
the left, only up to the platforms that are named (`byPosition`), and exactly
where these are the platforms of their positions (`NamesMatch`).

The proofs need nothing of the two policies but what each does to the platform,
the mask and the version. For `newest` this takes the place of its cases: where
one side states nothing its mask and its version are zero, and the rule for two
stated slots gives the same result.
-/
import ApiAvailability.Proofs.SlotOrder

set_option autoImplicit false

namespace ApiAvailability

namespace Slot

/-! ## The later slot -/

/-- **What `newest` does.** It keeps the first platform, unites the masks and
takes the greater version, whether or not the slots state anything. -/
theorem newest_parts (s t : Slot) :
    (s.newest t).platform = s.platform ∧ (s.newest t).arch = s.arch.union t.arch ∧
      (s.newest t).versionNumber = max s.versionNumber t.versionNumber := by
  -- A side that states nothing has no mask and version zero, so the union and
  -- the maximum leave the other side as it is.
  by_cases ht : t.isSpecified = false
  · obtain ⟨harch, hnumber⟩ := (isSpecified_eq_false_iff t).1 ht
    have hnewest : s.newest t = s := by simp [newest, ht]
    rw [hnewest, harch, hnumber, Architecture.union_unstated, Nat.max_zero]
    exact ⟨rfl, rfl, rfl⟩
  · by_cases hs : s.isSpecified = false
    · obtain ⟨harch, hnumber⟩ := (isSpecified_eq_false_iff s).1 hs
      have hnewest : s.newest t = { t with platform := s.platform } := by simp [newest, ht, hs]
      rw [hnewest, harch, hnumber, Architecture.unstated_union, Nat.zero_max]
      exact ⟨rfl, rfl, rfl⟩
    · by_cases hgt : t.compareVersion s = .gt
      · have hnewest : s.newest t =
            { t with platform := s.platform, arch := s.arch.union t.arch } := by
          simp [newest, ht, hs, hgt]
        have hlt := (compareVersion_eq_gt_iff t s).1 hgt
        rw [hnewest, Nat.max_eq_right (Nat.le_of_lt hlt)]
        exact ⟨rfl, rfl, rfl⟩
      · have hnewest : s.newest t = { s with arch := s.arch.union t.arch } := by
          simp [newest, ht, hs, hgt]
        have hle := mt (compareVersion_eq_gt_iff t s).2 hgt
        rw [hnewest, Nat.max_eq_left (Nat.le_of_not_lt hle)]
        exact ⟨rfl, rfl, rfl⟩

@[simp] theorem versionNumber_newest (s t : Slot) :
    (s.newest t).versionNumber = max s.versionNumber t.versionNumber :=
  (newest_parts s t).2.2

@[simp] theorem versionNumber_unspecified (p : Platform) : (unspecified p).versionNumber = 0 := by
  simp [versionNumber, unspecified]

@[simp] theorem arch_unspecified (p : Platform) : (unspecified p).arch = .unstated := rfl

/-- The slot under the name of another platform. -/
def named (p : Platform) (s : Slot) : Slot := { s with platform := p }

end Slot

/-! ## Combined slots under either policy -/

namespace ConflictPolicy

variable (policy : ConflictPolicy)

@[simp] theorem platform_combine (s t : Slot) : (policy.combine s t).platform = s.platform := by
  cases policy with
  | bitwiseOr => rfl
  | preferNewest => exact (Slot.newest_parts s t).1

@[simp] theorem arch_combine (s t : Slot) :
    (policy.combine s t).arch = s.arch.union t.arch := by
  cases policy with
  | bitwiseOr => rfl
  | preferNewest => exact (Slot.newest_parts s t).2.1

theorem combine_assoc (s t u : Slot) :
    policy.combine (policy.combine s t) u = policy.combine s (policy.combine t u) := by
  cases policy with
  | bitwiseOr => simp only [combine, Slot.union, Architecture.union_assoc, UInt8.or_assoc]
  | preferNewest =>
    refine Slot.eq_of_versionNumber_eq (by simp) (by simp [Architecture.union_assoc]) ?_
    simp only [combine, Slot.versionNumber_newest, Nat.max_assoc]

theorem combine_self (s : Slot) : policy.combine s s = s := by
  cases policy with
  | bitwiseOr => simp only [combine, Slot.union, Architecture.union_self, UInt8.or_self]
  | preferNewest =>
    refine Slot.eq_of_versionNumber_eq (by simp) (by simp) ?_
    simp only [combine, Slot.versionNumber_newest, Nat.max_self]

/-- In the other order the same is stated, under the other platform. -/
theorem combine_comm (s t : Slot) :
    policy.combine s t = (policy.combine t s).named s.platform := by
  cases policy with
  | bitwiseOr => simp only [combine, Slot.union, Slot.named, Architecture.union_comm, UInt8.or_comm]
  | preferNewest =>
    refine Slot.eq_of_versionNumber_eq (by simp [Slot.named]) ?_ ?_
    · simp only [Slot.named, arch_combine, Architecture.union_comm]
    · show (s.newest t).versionNumber = (t.newest s).versionNumber
      simp only [Slot.versionNumber_newest, Nat.max_comm]

theorem combine_unspecified (s : Slot) (p : Platform) :
    policy.combine s (.unspecified p) = s := by
  cases policy with
  | bitwiseOr => simp [combine, Slot.union, Slot.unspecified]
  | preferNewest =>
    refine Slot.eq_of_versionNumber_eq (by simp) (by simp) ?_
    simp only [combine, Slot.versionNumber_newest, Slot.versionNumber_unspecified, Nat.max_zero]

theorem unspecified_combine (p : Platform) (s : Slot) :
    policy.combine (.unspecified p) s = s.named p := by
  rw [combine_comm, combine_unspecified]
  rfl

/-- The platform of the second slot does not count. -/
theorem combine_named (s t : Slot) (p : Platform) :
    policy.combine s (t.named p) = policy.combine s t := by
  rw [combine_comm policy s t, combine_comm policy s (t.named p)]
  cases policy with
  | bitwiseOr => rfl
  | preferNewest =>
    refine Slot.eq_of_versionNumber_eq rfl ?_ ?_
    · simp only [Slot.named, arch_combine]
    · show ((t.named p).newest s).versionNumber = (t.newest s).versionNumber
      simp only [Slot.versionNumber_newest]
      rfl

theorem versionNumber_le_combine_left (s t : Slot) :
    s.versionNumber ≤ (policy.combine s t).versionNumber := by
  cases policy with
  | bitwiseOr => exact Slot.versionNumber_le_union_left s t
  | preferNewest =>
    simp only [combine, Slot.versionNumber_newest]
    exact Nat.le_max_left ..

/-- Of two slots that are combined into a third the order does not count. -/
theorem combine_right_comm (s t u : Slot) :
    policy.combine (policy.combine s t) u = policy.combine (policy.combine s u) t := by
  rw [combine_assoc, combine_assoc, combine_comm policy t u, combine_named]

end ConflictPolicy

/-! ## Sets -/

namespace SlotSet

/-- The set whose slots name the platforms of their positions, and state the same. -/
def byPosition (t : SlotSet) : SlotSet where
  iOS := t.iOS.named .iOS
  macOS := t.macOS.named .macOS
  watchOS := t.watchOS.named .watchOS
  tvOS := t.tvOS.named .tvOS

theorem isConcrete_of_get {t : SlotSet} {p : Platform} {s : Slot} (h : t.get p = some s) :
    p.isConcrete := by
  cases p with
  | none => cases h
  | macOS => rfl
  | iOS => rfl
  | watchOS => rfl
  | tvOS => rfl

/-- For each of the four platforms there is a slot. -/
theorem exists_get (t : SlotSet) {p : Platform} (h : p.isConcrete) : ∃ s, t.get p = some s := by
  cases p with
  | none => cases h
  | macOS => exact ⟨t.macOS, rfl⟩
  | iOS => exact ⟨t.iOS, rfl⟩
  | watchOS => exact ⟨t.watchOS, rfl⟩
  | tvOS => exact ⟨t.tvOS, rfl⟩

theorem not_isSpecified_of_get_empty {p : Platform} {s : Slot} (h : empty.get p = some s) :
    ¬s.isSpecified := by
  cases p <;> cases h <;> decide

/-- The slots that are listed are those in the positions. -/
theorem mem_slots_iff (t : SlotSet) (s : Slot) : s ∈ t.slots ↔ ∃ p, t.get p = some s := by
  rw [slots]
  constructor
  · intro hs
    simp only [List.mem_cons, List.not_mem_nil, or_false] at hs
    rcases hs with rfl | rfl | rfl | rfl
    · exact ⟨.iOS, rfl⟩
    · exact ⟨.macOS, rfl⟩
    · exact ⟨.watchOS, rfl⟩
    · exact ⟨.tvOS, rfl⟩
  · rintro ⟨p, hp⟩
    cases p <;> cases hp <;> simp

/-- A slot of a combination is a combination of two slots. -/
theorem exists_of_get_merge {policy : ConflictPolicy} {t u : SlotSet} {p : Platform} {s : Slot}
    (h : (t.merge policy u).get p = some s) :
    ∃ a b, t.get p = some a ∧ u.get p = some b ∧ policy.combine a b = s := by
  rw [get_merge] at h
  obtain ⟨a, ha, hmap⟩ := Option.bind_eq_some_iff.1 h
  obtain ⟨b, hb, hs⟩ := Option.map_eq_some_iff.1 hmap
  exact ⟨a, b, ha, hb, hs⟩

/-- Every slot names the platform of its position. -/
def NamesMatch (t : SlotSet) : Prop := ∀ p s, t.get p = some s → s.platform = p

theorem byPosition_of_namesMatch {t : SlotSet} (h : t.NamesMatch) : t.byPosition = t := by
  have hiOS := h .iOS t.iOS rfl
  have hmacOS := h .macOS t.macOS rfl
  have hwatchOS := h .watchOS t.watchOS rfl
  have htvOS := h .tvOS t.tvOS rfl
  unfold byPosition Slot.named
  rw [← hiOS, ← hmacOS, ← hwatchOS, ← htvOS]

/-- A combination names what its first set names. -/
theorem namesMatch_merge {t : SlotSet} (h : t.NamesMatch) (policy : ConflictPolicy) (u : SlotSet) :
    (t.merge policy u).NamesMatch := by
  intro p s hs
  obtain ⟨a, b, ha, -, rfl⟩ := exists_of_get_merge hs
  rw [ConflictPolicy.platform_combine]
  exact h p a ha

/-- An encoding names no platforms, so its slots get those of their positions. -/
theorem namesMatch_ofEncoding (encoding : UInt64) : (ofEncoding encoding).NamesMatch := by
  intro p s hs
  cases p <;> cases hs <;> rfl

variable (policy : ConflictPolicy)

theorem merge_assoc (t u v : SlotSet) :
    (t.merge policy u).merge policy v = t.merge policy (u.merge policy v) := by
  simp only [merge, ConflictPolicy.combine_assoc]

theorem merge_self (t : SlotSet) : t.merge policy t = t := by
  simp only [merge, ConflictPolicy.combine_self]

theorem merge_empty (t : SlotSet) : t.merge policy empty = t := by
  simp only [merge, empty, ConflictPolicy.combine_unspecified]

theorem byPosition_merge_comm (t u : SlotSet) :
    (t.merge policy u).byPosition = (u.merge policy t).byPosition := by
  simp only [byPosition, merge]
  rw [policy.combine_comm t.iOS, policy.combine_comm t.macOS, policy.combine_comm t.watchOS,
    policy.combine_comm t.tvOS]
  rfl

theorem empty_merge (t : SlotSet) : empty.merge policy t = t.byPosition := by
  simp only [merge, empty, ConflictPolicy.unspecified_combine, byPosition]

/-- Of two sets that are combined into a third the order does not count. -/
theorem merge_right_comm (t u v : SlotSet) :
    (t.merge policy u).merge policy v = (t.merge policy v).merge policy u := by
  simp only [merge]
  rw [policy.combine_right_comm t.iOS, policy.combine_right_comm t.macOS,
    policy.combine_right_comm t.watchOS, policy.combine_right_comm t.tvOS]

theorem merge_merge_self (t u : SlotSet) :
    (t.merge policy u).merge policy u = t.merge policy u := by
  rw [merge_assoc, merge_self]

/-- **The laws of combining sets.** They hold for every content of the slots,
also where slots name platforms that are not those of their positions. -/
theorem merge_laws :
    (∀ t u v : SlotSet, (t.merge policy u).merge policy v = t.merge policy (u.merge policy v)) ∧
    (∀ t : SlotSet, t.merge policy t = t) ∧
    (∀ t : SlotSet, t.merge policy empty = t) ∧
    (∀ t u : SlotSet, (t.merge policy u).byPosition = (u.merge policy t).byPosition) ∧
    (∀ t : SlotSet, (empty.merge policy t).byPosition = t.byPosition) ∧
    (∀ t u : SlotSet, t.NamesMatch → u.NamesMatch → t.merge policy u = u.merge policy t) ∧
    (∀ t : SlotSet, t.NamesMatch → empty.merge policy t = t) ∧
    (∀ t u : SlotSet, t.union u = t.merge .bitwiseOr u ∧ t ||| u = t.merge .bitwiseOr u) := by
  refine ⟨merge_assoc policy, merge_self policy, merge_empty policy, byPosition_merge_comm policy,
    ?_, ?_, ?_, fun t u => ⟨rfl, rfl⟩⟩
  · intro t
    rw [empty_merge]
    rfl
  · intro t u ht hu
    have h := byPosition_merge_comm policy t u
    rwa [byPosition_of_namesMatch (namesMatch_merge ht policy u),
      byPosition_of_namesMatch (namesMatch_merge hu policy t)] at h
  · intro t ht
    rw [empty_merge, byPosition_of_namesMatch ht]

/-- Two versions of iOS as encodings, which blend in either order. -/
theorem merge_laws_ofEncoding :
    (ofEncoding 0xff090000).NamesMatch ∧ (ofEncoding 0xff0a0000).NamesMatch ∧
    (ofEncoding 0xff090000).merge .bitwiseOr (ofEncoding 0xff0a0000) =
      (ofEncoding 0xff0a0000).merge .bitwiseOr (ofEncoding 0xff090000) ∧
    empty.merge .bitwiseOr (ofEncoding 0xff090000) = ofEncoding 0xff090000 := by
  obtain ⟨-, -, -, -, -, hcomm, hleft, -⟩ := merge_laws .bitwiseOr
  have ht := namesMatch_ofEncoding 0xff090000
  have hu := namesMatch_ofEncoding 0xff0a0000
  exact ⟨ht, hu, hcomm _ _ ht hu, hleft _ ht⟩

end SlotSet

end ApiAvailability
