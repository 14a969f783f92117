/-
Encodings, as numbers and as sets of slots.

An argument is an encoding if it is a number that is not negative, whatever its form,
and then the encoding is the number: no form holds a number too large for 64 bits. So
whoever asks whether an argument can be read, and as what, need not look at the reader
(`isSome_encoding?`, `number?_of_encoding?`).

The slots of iOS and macOS have a word of the encoding each, and a slot has a byte of
its word for each of its parts. Bits that are united stay in their place on every
level, so united encodings stand for united sets (`ofEncoding_or`).
-/
import ApiAvailability.Attribute.Argument
import ApiAvailability.Proofs.SlotLattice
import Mathlib.Data.List.Induction

set_option autoImplicit false

namespace ApiAvailability

/-! ## Numbers that are encodings -/

namespace Argument

/-- Whether the argument is a number that is not negative. -/
def isNatural (a : Argument) : Bool := a.number?.any fun n => 0 ≤ n

/-- No form of an argument holds a number that does not fit 64 bits. -/
theorem number?_lt_size {a : Argument} {n : Int} (h : a.number? = some n) : n < UInt64.size := by
  cases a with
  | null => cases h
  | bool b => cases h
  | str s => cases h
  | byte m =>
    cases h
    have hlt := m.toNat_lt
    simp only [UInt64.size]
    omega
  | int m =>
    cases h
    have hlt := m.toInt_lt
    simp only [UInt64.size]
    omega
  | ulong m =>
    cases h
    have hlt := m.toNat_lt
    simp only [UInt64.size]
    omega

theorem encoding?_eq_of_number? {a : Argument} {n : Int} (h : a.number? = some n) (hn : 0 ≤ n) :
    a.encoding? = some (UInt64.ofNat n.toNat) := by
  rw [encoding?, h, Option.bind_some, if_pos ⟨hn, number?_lt_size h⟩]

/-- The encoding is the number. -/
theorem number?_of_encoding? {a : Argument} {e : UInt64} (h : a.encoding? = some e) :
    a.number? = some (e.toNat : Int) := by
  obtain ⟨n, hn, hread⟩ := Option.bind_eq_some_iff.1 h
  rw [Option.ite_none_right_eq_some] at hread
  obtain ⟨⟨hpos, hlt⟩, hread⟩ := hread
  cases hread
  have hnat : n.toNat < UInt64.size := by omega
  rw [hn, UInt64.toNat_ofNat_of_lt' hnat, Int.toNat_of_nonneg hpos]

theorem isSome_encoding? (a : Argument) : a.encoding?.isSome = a.isNatural := by
  cases hnumber : a.number? with
  | none => simp [encoding?, isNatural, hnumber]
  | some n =>
    by_cases hn : 0 ≤ n
    · simp [encoding?_eq_of_number? hnumber hn, isNatural, hnumber, hn]
    · simp [encoding?, isNatural, hnumber, hn]

/-- Of natural numbers none is lost when they are read as encodings. -/
theorem map_toNat_filterMap_encoding? {vs : List Argument} (h : ∀ v ∈ vs, v.isNatural) :
    (vs.filterMap encoding?).map (fun e => some (e.toNat : Int)) = vs.map number? := by
  induction vs with
  | nil => rfl
  | cons v vs ih =>
    have hv := h v (List.mem_cons_self ..)
    have hvs := ih fun w hw => h w (List.mem_cons_of_mem v hw)
    rw [← isSome_encoding?] at hv
    obtain ⟨e, he⟩ := Option.isSome_iff_exists.1 hv
    rw [List.filterMap_cons_some he, List.map_cons, List.map_cons, hvs, number?_of_encoding? he]

end Argument

/-! ## United encodings -/

/-- A word of united bits is the word of united slots, byte by byte. -/
theorem Slot.ofPacked_or (p : Platform) (v w : UInt32) :
    ofPacked p (v ||| w) = (ofPacked p v).union (ofPacked p w) := by
  simp only [ofPacked, union, Architecture.union, UInt32.shiftRight_or, UInt32.toUInt8_or]

namespace SlotSet

/-- United encodings stand for united sets. -/
theorem ofEncoding_or (d e : UInt64) :
    ofEncoding (d ||| e) = (ofEncoding d).union (ofEncoding e) := by
  have hnone (p : Platform) : (Slot.unspecified p).union (.unspecified p) = .unspecified p :=
    ConflictPolicy.combine_self .bitwiseOr (.unspecified p)
  simp only [ofEncoding, union, merge, ConflictPolicy.combine, UInt64.shiftRight_or,
    UInt64.toUInt32_or, Slot.ofPacked_or]
  simp only [empty, hnone]

/-- To unite with encodings one after the other is to unite with all of them at once. -/
theorem foldl_union_ofEncoding (t : SlotSet) (encodings : List UInt64) :
    encodings.foldl (fun t e => t.merge .bitwiseOr (ofEncoding e)) t =
      t.union (ofEncoding (encodings.foldl (· ||| ·) 0)) := by
  induction encodings using List.reverseRecOn with
  | nil => exact (merge_empty .bitwiseOr t).symm
  | append_singleton encodings e ih =>
    rw [List.foldl_append, List.foldl_append, ih]
    show (t.union _).merge .bitwiseOr (ofEncoding e) = t.union (ofEncoding (_ ||| e))
    rw [ofEncoding_or]
    exact merge_assoc .bitwiseOr t _ _

end SlotSet

end ApiAvailability
