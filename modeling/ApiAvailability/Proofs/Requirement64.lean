/-
When an API that is too new is said to require 64-bit.

The requirement stands at the end of the text, and nothing else that can stand there
ends alike, so whether it is made can be read off the text (`suffix_introductionText_iff`).
It is made for a mask that contains 64-bit and is not the full one. An unstated mask is
read as the full one, so it may be left out of account.

Seen bit by bit a mask contains another one if it has all its bits, and it is the full one
if it has all eight (`contains_iff_hasBit`, `eq_every_iff_hasBit`). The bits of a mask that
is gathered are those of the masks that attributes state. So the requirement tells that
64-bit is stated and that some bit is stated by nobody, but not that this bit is the one
for 32-bit: an attribute for either architecture leaves six bits that nobody states.
-/
import ApiAvailability.Attribute.Binding
import ApiAvailability.Proofs.PlatformView
import ApiAvailability.Proofs.StatedSlots

set_option autoImplicit false

namespace ApiAvailability

/-! ## Masks as sets of bits -/

namespace Architecture

theorem contains_iff_hasBit (a b : Architecture) :
    a.contains b ↔ ∀ i, b.hasBit i → a.hasBit i := by
  rw [contains, decide_eq_true_eq, ← UInt8.toNat_inj, UInt8.toNat_and]
  -- Both sides of the comparison are taken bit by bit.
  constructor
  · intro h i hi
    have hbit : (a.bits.toNat &&& b.bits.toNat).testBit i = true := by
      rw [h]
      exact hi
    rw [Nat.testBit_and, Bool.and_eq_true] at hbit
    exact hbit.1
  · intro h
    apply Nat.eq_of_testBit_eq
    intro i
    rw [Nat.testBit_and]
    by_cases hi : b.bits.toNat.testBit i
    · have ha : a.bits.toNat.testBit i = true := h i hi
      rw [ha, Bool.true_and]
    · rw [Bool.eq_false_iff.2 hi, Bool.and_false]

/-- A mask has eight bits. -/
theorem lt_of_hasBit {a : Architecture} {i : Nat} (h : a.hasBit i) : i < 8 := by
  by_contra hge
  have hlt : a.bits.toNat < 2 ^ i := by
    have hbits := a.bits.toNat_lt
    have hpow : 2 ^ 8 ≤ 2 ^ i := Nat.pow_le_pow_right (by decide) (by omega)
    omega
  have hnone : a.hasBit i = false := Nat.testBit_lt_two_pow hlt
  rw [hnone] at h
  exact absurd h (by decide)

theorem hasBit_every (i : Nat) : every.hasBit i = decide (i < 8) :=
  Nat.testBit_two_pow_sub_one 8 i

theorem eq_every_iff_hasBit (a : Architecture) : a = every ↔ ∀ i < 8, a.hasBit i := by
  constructor
  · rintro rfl i hi
    rw [hasBit_every]
    exact decide_eq_true hi
  · intro h
    have hbits : a.bits = every.bits := by
      rw [← UInt8.toNat_inj]
      apply Nat.eq_of_testBit_eq
      intro i
      show a.hasBit i = every.hasBit i
      rw [hasBit_every]
      by_cases hi : i < 8
      · rw [h i hi, decide_eq_true hi]
      · rw [decide_eq_false hi]
        exact Bool.eq_false_iff.2 fun hbit => hi (lt_of_hasBit hbit)
    obtain ⟨bits⟩ := a
    exact congrArg mk hbits

/-- Each of the two named architectures is one bit. -/
theorem contains_arch32_iff (a : Architecture) : a.contains arch32 ↔ a.hasBit 0 := by
  have hbit : ∀ i, arch32.hasBit i = decide (0 = i) := fun i => Nat.testBit_two_pow (n := 0)
  rw [contains_iff_hasBit]
  simp only [hbit, decide_eq_true_eq, forall_eq']

theorem contains_arch64_iff (a : Architecture) : a.contains arch64 ↔ a.hasBit 1 := by
  have hbit : ∀ i, arch64.hasBit i = decide (1 = i) := fun i => Nat.testBit_two_pow (n := 1)
  rw [contains_iff_hasBit]
  simp only [hbit, decide_eq_true_eq, forall_eq']

end Architecture

/-! ## The requirement in the text -/

namespace Advisory

theorem requires64_iff (s : Slot) :
    requires64 s ↔ s.arch ≠ .every ∧ s.arch.contains .arch64 := by
  rw [← s.arch.effective_limited_iff (by decide), requires64, Bool.and_eq_true, decide_eq_true_eq]

/-- **The requirement can be read off the text.** -/
theorem suffix_introductionText_iff (s : Slot) :
    " and requires a 64-bit architecture".toList <:+ (introductionText s).toList ↔
      requires64 s := by
  unfold introductionText
  by_cases h64 : requires64 s
  · rw [if_pos h64, String.toList_append]
    exact iff_of_true (List.suffix_append _ _) h64
  · rw [if_neg h64, String.append_empty, String.toList_append]
    refine iff_of_false (fun hsuffix => ?_) h64
    -- The last character would be an e and an r.
    obtain ⟨before, heq⟩ := hsuffix
    have hlast := congrArg List.getLast? heq
    have he : " and requires a 64-bit architecture".toList.getLast? = some 'e' := by decide
    have hr : " or newer".toList.getLast? = some 'r' := by decide
    rw [List.getLast?_append, List.getLast?_append, he, hr, Option.some_or, Option.some_or] at hlast
    exact absurd hlast (by decide)

end Advisory

/-! ## The requirement after a run -/

namespace Record

theorem contains_slot_gather_none_iff (policy : ConflictPolicy) {l : List Attribute}
    {k : FactKind} {p : Platform} {r : Slot}
    (hr : ((gather policy none l).getD .empty).slot k p = some r) {a : Architecture} {i : Nat}
    (hbit : ∀ b : Architecture, b.contains a ↔ b.hasBit i) :
    r.arch.contains a ↔ ∃ s, Attribute.StatedIn l k p s ∧ s.arch.contains a := by
  simp only [hbit]
  exact hasBit_slot_gather_none policy hr i

end Record

namespace Advisory

/-- **What the requirement tells.** Attributes are gathered from nothing, and the API is
said to be too new. The text ends with the requirement of 64-bit exactly if the mask for
the introduction contains 64-bit and is not the full one. The mask contains either
architecture if an attribute states it, and it is the full one if each of its bits is
stated. So 32-bit may be stated beside 64-bit, and the requirement is made all the same. -/
theorem introduction?_requires64 {policy : ConflictPolicy} {l : List Attribute}
    {merged : Option Record} (h : Record.mergeAttributes policy none l = .ok merged)
    {minimum : Option Deployment} {p : Platform} {text : String}
    (htext : introduction? merged minimum p = some text) :
    ∃ s, (merged.getD .empty).slot .introduced p = some s ∧
      (" and requires a 64-bit architecture".toList <:+ text.toList ↔
        s.arch.contains .arch64 ∧ s.arch ≠ .every) ∧
      (s.arch.contains .arch64 ↔
        ∃ t, Attribute.StatedIn l .introduced p t ∧ t.arch.contains .arch64) ∧
      (s.arch.contains .arch32 ↔
        ∃ t, Attribute.StatedIn l .introduced p t ∧ t.arch.contains .arch32) ∧
      (s.arch = .every ↔
        ∀ i < 8, ∃ t, Attribute.StatedIn l .introduced p t ∧ t.arch.hasBit i) := by
  obtain ⟨-, s, -, hs, -⟩ := (isSome_introduction?_iff merged minimum p).1 (by rw [htext]; rfl)
  have htold : text = introductionText s := by
    rw [introduction?_of_slot hs, Option.bind_eq_some_iff] at htext
    obtain ⟨d, -, htext⟩ := htext
    exact (Option.some.inj (Option.ite_none_right_eq_some.1 htext).2).symm
  have hgathered := hs
  rw [Record.gather_of_mergeAttributes_eq_ok h] at hgathered
  refine ⟨s, hs, ?_, ?_, ?_, ?_⟩
  · rw [htold, suffix_introductionText_iff, requires64_iff, and_comm]
  · exact Record.contains_slot_gather_none_iff policy hgathered Architecture.contains_arch64_iff
  · exact Record.contains_slot_gather_none_iff policy hgathered Architecture.contains_arch32_iff
  · rw [Architecture.eq_every_iff_hasBit]
    exact forall₂_congr fun i _ => Record.hasBit_slot_gather_none policy hgathered i

/-- An API that only 64-bit has. -/
theorem introduction?_requires64_only64 :
    let l : List Attribute := [.ios 9 3, .single .introduced .iOS 11 0 .arch64 none]
    let merged : Option Record :=
      some { Record.empty with introduced := .single ⟨.iOS, .arch64, 11, 3, 0⟩ }
    let text := "is only available on iOS 11.3 or newer and requires a 64-bit architecture"
    Record.mergeAttributes .bitwiseOr none l = .ok merged ∧
    introduction? merged (some ⟨10, 0, 0⟩) .iOS = some text ∧
    ∃ s, (merged.getD .empty).slot .introduced .iOS = some s ∧
      (" and requires a 64-bit architecture".toList <:+ text.toList ↔
        s.arch.contains .arch64 ∧ s.arch ≠ .every) ∧
      (s.arch.contains .arch64 ↔
        ∃ t, Attribute.StatedIn l .introduced .iOS t ∧ t.arch.contains .arch64) ∧
      (s.arch.contains .arch32 ↔
        ∃ t, Attribute.StatedIn l .introduced .iOS t ∧ t.arch.contains .arch32) ∧
      (s.arch = .every ↔
        ∀ i < 8, ∃ t, Attribute.StatedIn l .introduced .iOS t ∧ t.arch.hasBit i) := by
  intro l merged text
  have h : Record.mergeAttributes .bitwiseOr none l = .ok merged :=
    Record.mergeAttributes_of_gather_eq (by decide) (by decide)
  have htext : introduction? merged (some ⟨10, 0, 0⟩) .iOS = some text := by decide
  exact ⟨h, htext, introduction?_requires64 h htext⟩

/-- One attribute for either architecture: the mask has both, and 64-bit is required. -/
theorem introduction?_requires64_besides32 :
    let l : List Attribute :=
      [.single .introduced .iOS 11 0 .arch32 none, .single .introduced .iOS 11 0 .arch64 none]
    ∃ merged text s, Record.mergeAttributes .bitwiseOr none l = .ok merged ∧
      Platform.iOS.isConcrete ∧ introduction? merged (some ⟨10, 0, 0⟩) .iOS = some text ∧
      " and requires a 64-bit architecture".toList <:+ text.toList ∧
      (merged.getD .empty).slot .introduced .iOS = some s ∧ s.arch.contains .arch32 := by
  intro l
  refine ⟨some { Record.empty with introduced := .single ⟨.iOS, ⟨3⟩, 11, 0, 0⟩ },
    "is only available on iOS 11.0 or newer and requires a 64-bit architecture",
    ⟨.iOS, ⟨3⟩, 11, 0, 0⟩, ?_, rfl, by decide, by decide, rfl, rfl⟩
  exact Record.mergeAttributes_of_gather_eq (by decide) (by decide)

end Advisory

end ApiAvailability
