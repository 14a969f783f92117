/-
Slots as words of 32 bits, and sets of slots as encodings of 64 bits.

The bytes of a slot are the digits of its word to the base 256, since each of them is
shifted to a lane of its own and no two lanes meet (`toNat_packed`). Seen as a number the
word has the mask above and the number of the version below: the three lanes of the version
are what is left when the word is divided by `2 ^ 24`. So taking a word apart is division
with remainder, it is undone by putting the word together, and comparing versions is
comparing remainders.

An encoding is two such words, with the one of macOS above the one of iOS. What it leaves
open are the other two platforms, about which it states nothing, and the names in the
slots, which are those of the positions. The sets of this form (`HasEncoding`) are exactly
those that encodings stand for, each for one encoding.
-/
import ApiAvailability.Proofs.Encodings
import Mathlib.Algebra.Group.Nat.Defs

set_option autoImplicit false

namespace ApiAvailability

/-! ## The word of a slot -/

namespace Slot

theorem versionNumber_lt (s : Slot) : s.versionNumber < 0x1000000 := by
  have hmajor := s.major.toNat_lt
  have hminor := s.minor.toNat_lt
  have hsubminor := s.subminor.toNat_lt
  unfold versionNumber
  omega

/-- Where the bits of one number end before those of the other begin, all of them together
are the sum. -/
theorem or_eq_add {n b i : Nat} (hn : 2 ^ i ∣ n) (hb : b < 2 ^ i) : n ||| b = n + b := by
  obtain ⟨a, rfl⟩ := hn
  exact (Nat.two_pow_add_eq_or_of_lt hb a).symm

/-- **The bytes of a slot are the digits of its word.** -/
theorem toNat_packed (s : Slot) :
    s.packed.toNat = s.arch.bits.toNat * 0x1000000 + s.versionNumber := by
  have harch := s.arch.bits.toNat_lt
  have hmajor := s.major.toNat_lt
  have hminor := s.minor.toNat_lt
  have hsubminor := s.subminor.toNat_lt
  unfold packed versionNumber
  simp only [UInt32.toNat_or, UInt32.toNat_shiftLeft, UInt8.toNat_toUInt32, Nat.shiftLeft_eq,
    UInt32.reduceToNat, Nat.reduceMod, Nat.reducePow]
  generalize s.arch.bits.toNat = a at *
  generalize s.major.toNat = j at *
  generalize s.minor.toNat = n at *
  generalize s.subminor.toNat = u at *
  -- No shift drops a bit, so the lanes can be added up from the highest one on.
  rw [Nat.mod_eq_of_lt (show a * 0x1000000 < 0x100000000 by omega),
    Nat.mod_eq_of_lt (show j * 0x10000 < 0x100000000 by omega),
    Nat.mod_eq_of_lt (show n * 0x100 < 0x100000000 by omega)]
  have hmajors : a * 0x1000000 ||| j * 0x10000 = a * 0x1000000 + j * 0x10000 := by
    apply or_eq_add (i := 24)
    · omega
    · omega
  have hminors : a * 0x1000000 + j * 0x10000 ||| n * 0x100 =
      a * 0x1000000 + j * 0x10000 + n * 0x100 := by
    apply or_eq_add (i := 16)
    · omega
    · omega
  have hsubminors : a * 0x1000000 + j * 0x10000 + n * 0x100 ||| u =
      a * 0x1000000 + j * 0x10000 + n * 0x100 + u := by
    apply or_eq_add (i := 8)
    · omega
    · omega
  rw [hmajors, hminors, hsubminors]
  omega

theorem versionNumber_eq_mod (s : Slot) : s.versionNumber = s.packed.toNat % 2 ^ 24 := by
  have hlt := s.versionNumber_lt
  rw [toNat_packed]
  omega

theorem toNat_arch_ofPacked (p : Platform) (w : UInt32) :
    (ofPacked p w).arch.bits.toNat = w.toNat / 0x1000000 := by
  have hw := w.toNat_lt
  unfold ofPacked
  simp only [UInt32.toNat_toUInt8, UInt32.toNat_shiftRight, Nat.shiftRight_eq_div_pow,
    UInt32.reduceToNat, Nat.reduceMod, Nat.reducePow]
  omega

theorem versionNumber_ofPacked (p : Platform) (w : UInt32) :
    (ofPacked p w).versionNumber = w.toNat % 0x1000000 := by
  unfold versionNumber ofPacked
  simp only [UInt32.toNat_toUInt8, UInt32.toNat_shiftRight, Nat.shiftRight_eq_div_pow,
    UInt32.reduceToNat, Nat.reduceMod, Nat.reducePow]
  omega

/-- A word that is taken apart is put together again. -/
@[simp] theorem packed_ofPacked (p : Platform) (w : UInt32) : (ofPacked p w).packed = w := by
  apply UInt32.toNat_inj.1
  rw [toNat_packed, toNat_arch_ofPacked, versionNumber_ofPacked]
  omega

/-- A slot is taken from its word, under any platform. -/
theorem ofPacked_packed (p : Platform) (s : Slot) : ofPacked p s.packed = s.named p := by
  have hlt := s.versionNumber_lt
  have harch : (ofPacked p s.packed).arch.bits = s.arch.bits := by
    apply UInt8.toNat_inj.1
    rw [toNat_arch_ofPacked, toNat_packed]
    omega
  apply eq_of_versionNumber_eq
  · rfl
  · exact congrArg Architecture.mk harch
  · show (ofPacked p s.packed).versionNumber = s.versionNumber
    rw [versionNumber_ofPacked, toNat_packed]
    omega

/-- To unite slots is to unite their words and to take the result apart. -/
theorem union_eq_ofPacked (s t : Slot) :
    s.union t = ofPacked s.platform (s.packed ||| t.packed) := by
  rw [ofPacked_or, ofPacked_packed, ofPacked_packed]
  rfl

/-- **United slots have united words.** -/
theorem packed_union (s t : Slot) : (s.union t).packed = s.packed ||| t.packed := by
  rw [union_eq_ofPacked, packed_ofPacked]

theorem isSpecified_iff_packed (s : Slot) : s.isSpecified ↔ s.packed ≠ 0 := by
  have hword : s.packed ≠ 0 ↔ s.packed.toNat ≠ 0 := not_congr UInt32.toNat_inj.symm
  have hmask : s.arch.bits ≠ 0 ↔ s.arch.bits.toNat ≠ 0 := not_congr UInt8.toNat_inj.symm
  rw [isSpecified_iff, hword, hmask, toNat_packed]
  omega

/-- A slot that states nothing has nothing but its platform. -/
theorem eq_unspecified_of_not_isSpecified {s : Slot} (h : ¬s.isSpecified) :
    s = .unspecified s.platform := by
  rw [Bool.not_eq_true, isSpecified_eq_false_iff] at h
  obtain ⟨harch, hversion⟩ := h
  apply eq_of_versionNumber_eq
  · rfl
  · exact harch
  · rw [hversion, versionNumber_unspecified]

end Slot

/-! ## The encoding of a set -/

namespace SlotSet

/-- The encoding with the words of macOS and iOS. -/
def encoding (t : SlotSet) : UInt64 :=
  UInt64.ofNat (t.macOS.packed.toNat * 2 ^ 32 + t.iOS.packed.toNat)

/-- The set states nothing that an encoding cannot say: each slot names the platform of its
position, and about watchOS and tvOS there is nothing. -/
def HasEncoding (t : SlotSet) : Prop :=
  t.NamesMatch ∧ ¬t.watchOS.isSpecified ∧ ¬t.tvOS.isSpecified

/-- The two words have room beside each other. -/
theorem toNat_encoding (t : SlotSet) :
    t.encoding.toNat = t.macOS.packed.toNat * 2 ^ 32 + t.iOS.packed.toNat := by
  have hiOS := t.iOS.packed.toNat_lt
  have hmacOS := t.macOS.packed.toNat_lt
  unfold encoding
  apply UInt64.toNat_ofNat_of_lt'
  simp only [UInt64.size]
  omega

theorem toNat_packed_iOS_ofEncoding (e : UInt64) :
    (ofEncoding e).iOS.packed.toNat = e.toNat % 2 ^ 32 := by
  show (Slot.ofPacked .iOS e.toUInt32).packed.toNat = _
  rw [Slot.packed_ofPacked, UInt64.toNat_toUInt32]

theorem toNat_packed_macOS_ofEncoding (e : UInt64) :
    (ofEncoding e).macOS.packed.toNat = e.toNat / 2 ^ 32 := by
  have he := e.toNat_lt
  show (Slot.ofPacked .macOS (e >>> 32).toUInt32).packed.toNat = _
  rw [Slot.packed_ofPacked]
  simp only [UInt64.toNat_toUInt32, UInt64.toNat_shiftRight, Nat.shiftRight_eq_div_pow,
    UInt64.reduceToNat, Nat.reduceMod, Nat.reducePow]
  omega

theorem encoding_ofEncoding (e : UInt64) : (ofEncoding e).encoding = e := by
  apply UInt64.toNat_inj.1
  rw [toNat_encoding, toNat_packed_iOS_ofEncoding, toNat_packed_macOS_ofEncoding]
  omega

theorem hasEncoding_ofEncoding (e : UInt64) : (ofEncoding e).HasEncoding := by
  refine ⟨namesMatch_ofEncoding e, ?_, ?_⟩
  · exact not_isSpecified_of_get_empty (p := .watchOS) rfl
  · exact not_isSpecified_of_get_empty (p := .tvOS) rfl

/-- What an encoding can say is said by the encoding of the set. -/
theorem ofEncoding_encoding {t : SlotSet} (h : t.HasEncoding) : ofEncoding t.encoding = t := by
  obtain ⟨hnames, hwatchOS, htvOS⟩ := h
  have hiOS : t.encoding.toUInt32 = t.iOS.packed := by
    have hlt := t.iOS.packed.toNat_lt
    apply UInt32.toNat_inj.1
    rw [UInt64.toNat_toUInt32, toNat_encoding]
    omega
  have hmacOS : (t.encoding >>> 32).toUInt32 = t.macOS.packed := by
    have hlt := t.iOS.packed.toNat_lt
    have hlt' := t.macOS.packed.toNat_lt
    apply UInt32.toNat_inj.1
    simp only [UInt64.toNat_toUInt32, UInt64.toNat_shiftRight, Nat.shiftRight_eq_div_pow,
      UInt64.reduceToNat, Nat.reduceMod, Nat.reducePow, toNat_encoding]
    omega
  -- Each position gives back its slot, under the platform of the position.
  have hset : ofEncoding t.encoding = t.byPosition := by
    have hnone {s : Slot} (p : Platform) (hs : ¬s.isSpecified) : .unspecified p = s.named p := by
      rw [Slot.eq_unspecified_of_not_isSpecified hs]
      rfl
    unfold ofEncoding byPosition
    rw [hiOS, hmacOS, Slot.ofPacked_packed, Slot.ofPacked_packed, ← hnone .watchOS hwatchOS,
      ← hnone .tvOS htvOS]
    rfl
  rw [hset, byPosition_of_namesMatch hnames]

theorem isSpecified_ofEncoding_iff (e : UInt64) : (ofEncoding e).isSpecified ↔ e ≠ 0 := by
  have hwatchOS := (hasEncoding_ofEncoding e).2.1
  have htvOS := (hasEncoding_ofEncoding e).2.2
  have hslots : (ofEncoding e).isSpecified ↔
      (ofEncoding e).iOS.isSpecified ∨ (ofEncoding e).macOS.isSpecified := by
    simp [isSpecified, slots, hwatchOS, htvOS]
  have hwords (w : UInt32) : w ≠ 0 ↔ w.toNat ≠ 0 := not_congr UInt32.toNat_inj.symm
  have hencoding : e ≠ 0 ↔ e.toNat ≠ 0 := not_congr UInt64.toNat_inj.symm
  rw [hslots, Slot.isSpecified_iff_packed, Slot.isSpecified_iff_packed, hwords, hwords,
    toNat_packed_iOS_ofEncoding, toNat_packed_macOS_ofEncoding, hencoding]
  omega

/-! ## Together -/

/-- **Words and encodings lose nothing and mix nothing.** Words and the slots of a platform
are the same thing in two forms. The word of united slots has the bits of both words, and
so has each byte; versions are compared like the low 24 bits of the words. Encodings and
the sets of slots that have one are the same thing in two forms, too, where the encoding
is the word of macOS above the word of iOS. United encodings stand for united sets, and
zero alone stands for a set that states nothing. -/
theorem words_and_encodings :
    (∀ (p : Platform) (w : UInt32),
      (Slot.ofPacked p w).platform = p ∧ (Slot.ofPacked p w).packed = w) ∧
    (∀ s : Slot, Slot.ofPacked s.platform s.packed = s) ∧
    (∀ s t : Slot, s.union t = Slot.ofPacked s.platform (s.packed ||| t.packed) ∧
      (s.union t).packed = s.packed ||| t.packed ∧
      (s.union t).arch.bits = s.arch.bits ||| t.arch.bits ∧
      (s.union t).major = s.major ||| t.major ∧ (s.union t).minor = s.minor ||| t.minor ∧
      (s.union t).subminor = s.subminor ||| t.subminor) ∧
    (∀ s t : Slot, s.compareVersion t =
      compare (s.packed.toNat % 2 ^ 24) (t.packed.toNat % 2 ^ 24)) ∧
    (∀ e : UInt64, (ofEncoding e).HasEncoding ∧ (ofEncoding e).encoding = e) ∧
    (∀ t : SlotSet, t.HasEncoding → ofEncoding t.encoding = t) ∧
    (∀ t : SlotSet,
      t.encoding.toNat = t.macOS.packed.toNat * 2 ^ 32 + t.iOS.packed.toNat) ∧
    (∀ d e : UInt64, ofEncoding (d ||| e) = (ofEncoding d).union (ofEncoding e)) ∧
    ∀ e : UInt64, (ofEncoding e).isSpecified ↔ e ≠ 0 := by
  refine ⟨fun p w => ⟨rfl, Slot.packed_ofPacked p w⟩,
    fun s => Slot.ofPacked_packed s.platform s, fun s t => ?_, fun s t => ?_,
    fun e => ⟨hasEncoding_ofEncoding e, encoding_ofEncoding e⟩, fun t => ofEncoding_encoding,
    toNat_encoding, ofEncoding_or, isSpecified_ofEncoding_iff⟩
  · exact ⟨Slot.union_eq_ofPacked s t, Slot.packed_union s t, rfl, rfl, rfl, rfl⟩
  · rw [Slot.compareVersion_eq_compare, Slot.versionNumber_eq_mod, Slot.versionNumber_eq_mod]

/-- A set with every bit of macOS and a single one of iOS, and its encoding. -/
theorem words_and_encodings_fullWord :
    let t : SlotSet :=
      { empty with iOS := ⟨.iOS, .unstated, 0, 1, 0⟩, macOS := ⟨.macOS, .every, 255, 255, 255⟩ }
    t.HasEncoding ∧ t.encoding = 0xffffffff00000100 ∧ ofEncoding 0xffffffff00000100 = t := by
  intro t
  have ht : t.HasEncoding := by
    refine ⟨?_, by decide, by decide⟩
    intro p s hs
    cases p <;> cases hs <;> rfl
  have hencoding : t.encoding = 0xffffffff00000100 := by decide
  obtain ⟨-, -, -, -, -, hback, -⟩ := words_and_encodings
  exact ⟨ht, hencoding, hencoding ▸ hback t ht⟩

end SlotSet

end ApiAvailability
