/-
The order of versions as an order of numbers.

Of two versions the first part in which they differ decides. The three parts
are bytes, and read as the digits of one number to the base 256 they are
ordered in the same way, so that every comparison of slots becomes one of
natural numbers, and two slots are equal as soon as platform, mask and number
are.

The number also says what the two ways of combining slots have in common. Under
`newest` it is the greater of both numbers. Under `union` it is at least the
greater, because a byte with more bits is never smaller and each part keeps to
its own digit. The mask is the union of both masks either way, and the platform
is that of the first slot.
-/
import ApiAvailability.SlotSet

set_option autoImplicit false

namespace ApiAvailability

namespace Slot

/-! ## Versions as numbers -/

/-- The parts of the version as the digits of one number, major first. -/
def versionNumber (s : Slot) : Nat :=
  s.major.toNat * 0x10000 + (s.minor.toNat * 0x100 + s.subminor.toNat)

/-- The number determines the three parts, because each is below the base. -/
theorem version_eq_of_versionNumber_eq {s t : Slot} (h : s.versionNumber = t.versionNumber) :
    s.version = t.version := by
  unfold versionNumber at h
  have hs := s.minor.toNat_lt
  have hs' := s.subminor.toNat_lt
  have ht := t.minor.toNat_lt
  have ht' := t.subminor.toNat_lt
  have hmajor : s.major = t.major := UInt8.toNat_inj.1 (by omega)
  have hminor : s.minor = t.minor := UInt8.toNat_inj.1 (by omega)
  have hsubminor : s.subminor = t.subminor := UInt8.toNat_inj.1 (by omega)
  rw [version, version, hmajor, hminor, hsubminor]

/-- A slot is its platform, its mask and its version. -/
theorem eq_of_versionNumber_eq {s t : Slot} (hp : s.platform = t.platform)
    (ha : s.arch = t.arch) (hv : s.versionNumber = t.versionNumber) : s = t := by
  have h := version_eq_of_versionNumber_eq hv
  obtain ⟨p, a, major, minor, subminor⟩ := s
  obtain ⟨p', a', major', minor', subminor'⟩ := t
  simp only [version, Prod.mk.injEq] at h
  obtain ⟨hmajor, hminor, hsubminor⟩ := h
  simp only at hp ha
  rw [hp, ha, hmajor, hminor, hsubminor]

theorem compare_byte (a b : UInt8) : compare a b = compare a.toNat b.toNat := by
  simp only [compare, compareOfLessAndEq, UInt8.lt_iff_toNat_lt, UInt8.toNat_inj]

/-- Comparing two digits and then two more is comparing two numbers, if the
later digits are below the base. -/
theorem compare_then_compare {base a b c d : Nat} (hc : c < base) (hd : d < base) :
    (compare a b).then (compare c d) = compare (a * base + c) (b * base + d) := by
  -- One step in the leading digit outweighs whatever comes after it.
  rcases Nat.lt_trichotomy a b with hlt | heq | hgt
  · have hstep : (a + 1) * base ≤ b * base := Nat.mul_le_mul_right base hlt
    rw [Nat.add_mul] at hstep
    have hnumber : a * base + c < b * base + d := by omega
    rw [Nat.compare_eq_lt.2 hlt, Nat.compare_eq_lt.2 hnumber]
    rfl
  · rw [heq, Nat.compare_eq_eq.2 rfl]
    simp only [Ordering.eq_then, Nat.compare_eq_ite_lt, Nat.add_lt_add_iff_left]
  · have hstep : (b + 1) * base ≤ a * base := Nat.mul_le_mul_right base hgt
    rw [Nat.add_mul] at hstep
    have hnumber : b * base + d < a * base + c := by omega
    rw [Nat.compare_eq_gt.2 hgt, Nat.compare_eq_gt.2 hnumber]
    rfl

/-- Versions are compared as numbers. -/
theorem compareVersion_eq_compare (s t : Slot) :
    s.compareVersion t = compare s.versionNumber t.versionNumber := by
  have hlater : ∀ r : Slot, r.minor.toNat * 0x100 + r.subminor.toNat < 0x10000 := by
    intro r
    have hminor := r.minor.toNat_lt
    have hsubminor := r.subminor.toNat_lt
    omega
  simp only [compareVersion, compare_byte, versionNumber]
  rw [compare_then_compare s.subminor.toNat_lt t.subminor.toNat_lt,
    compare_then_compare (hlater s) (hlater t)]

theorem compareVersion_eq_gt_iff (s t : Slot) :
    s.compareVersion t = .gt ↔ t.versionNumber < s.versionNumber := by
  rw [compareVersion_eq_compare, Nat.compare_eq_gt]

theorem compareVersion_ne_lt_iff (s t : Slot) :
    s.compareVersion t ≠ .lt ↔ t.versionNumber ≤ s.versionNumber := by
  rw [compareVersion_eq_compare, Nat.compare_ne_lt]

/-- A slot says something by its mask or by its version. -/
theorem isSpecified_iff (s : Slot) :
    s.isSpecified ↔ s.arch.bits ≠ 0 ∨ s.versionNumber ≠ 0 := by
  have hzero : ∀ b : UInt8, b = 0 ↔ b.toNat = 0 := fun b => UInt8.toNat_inj.symm
  simp only [isSpecified, versionNumber, Bool.or_eq_true, decide_eq_true_eq, ne_eq, hzero]
  omega

/-- A slot says nothing exactly when its mask and its version are zero. -/
theorem isSpecified_eq_false_iff (s : Slot) :
    s.isSpecified = false ↔ s.arch = .unstated ∧ s.versionNumber = 0 := by
  have harch : s.arch = .unstated ↔ s.arch.bits = 0 := by
    obtain ⟨p, ⟨bits⟩, major, minor, subminor⟩ := s
    simp [Architecture.unstated]
  rw [← Bool.not_eq_true, isSpecified_iff, harch]
  simp only [ne_eq, not_or, Decidable.not_not]

end Slot

/-! ## Masks -/

namespace Architecture

theorem union_assoc (a b c : Architecture) : (a.union b).union c = a.union (b.union c) := by
  simp only [union, UInt8.or_assoc]

theorem union_comm (a b : Architecture) : a.union b = b.union a := by
  simp only [union, UInt8.or_comm]

@[simp] theorem union_self (a : Architecture) : a.union a = a := by
  simp only [union, UInt8.or_self]

@[simp] theorem union_unstated (a : Architecture) : a.union unstated = a := by
  simp only [union, unstated, UInt8.or_zero]

@[simp] theorem unstated_union (a : Architecture) : unstated.union a = a := by
  rw [union_comm, union_unstated]

/-- A mask contains another if it has no bit to gain from it. -/
theorem contains_iff_union_eq (a b : Architecture) : a.contains b ↔ a.union b = a := by
  obtain ⟨a⟩ := a
  obtain ⟨b⟩ := b
  simp only [contains, union, decide_eq_true_eq, mk.injEq, ← UInt8.toBitVec_inj,
    UInt8.toBitVec_and, UInt8.toBitVec_or, BitVec.eq_of_getElem_eq_iff, BitVec.getElem_and,
    BitVec.getElem_or]
  refine forall_congr' fun i => forall_congr' fun hi => ?_
  cases a.toBitVec[i] <;> cases b.toBitVec[i] <;> decide

theorem union_bits_eq_zero_iff (a b : Architecture) :
    (a.union b).bits = 0 ↔ a.bits = 0 ∧ b.bits = 0 :=
  UInt8.or_eq_zero_iff

end Architecture

/-! ## Combined slots -/

namespace Slot

theorem versionNumber_le_union_left (s t : Slot) :
    s.versionNumber ≤ (s.union t).versionNumber := by
  have hmajor := UInt8.le_iff_toNat_le.1 (UInt8.left_le_or (a := s.major) (b := t.major))
  have hminor := UInt8.le_iff_toNat_le.1 (UInt8.left_le_or (a := s.minor) (b := t.minor))
  have hsubminor :=
    UInt8.le_iff_toNat_le.1 (UInt8.left_le_or (a := s.subminor) (b := t.subminor))
  simp only [versionNumber, union]
  omega

theorem versionNumber_union_comm (s t : Slot) :
    (s.union t).versionNumber = (t.union s).versionNumber := by
  simp only [versionNumber, union, UInt8.or_comm]

theorem versionNumber_le_union_right (s t : Slot) :
    t.versionNumber ≤ (s.union t).versionNumber := by
  rw [versionNumber_union_comm]
  exact versionNumber_le_union_left t s

end Slot

end ApiAvailability
