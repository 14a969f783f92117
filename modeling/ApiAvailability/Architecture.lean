/-
Masks over the processor architectures to which a fact applies.

A mask is one byte. Two of its bits have a name, 32-bit and 64-bit; the full
byte means that the fact does not depend on the architecture, and the zero byte
that nobody stated one. The two are kept apart where facts are stored, and
where they are read an unstated mask counts as the full one.
-/
import ApiAvailability.Json.Decoder
import ApiAvailability.Text.Decimal
set_option autoImplicit false

namespace ApiAvailability

/-- A mask over architectures. -/
structure Architecture where
  bits : UInt8
  deriving DecidableEq

namespace Architecture

/-- No architecture was stated. -/
def unstated : Architecture := ⟨0⟩

/-- 32-bit only. -/
def arch32 : Architecture := ⟨1⟩

/-- 64-bit only. -/
def arch64 : Architecture := ⟨2⟩

/-- Every architecture. -/
def every : Architecture := ⟨0xff⟩

/-- Whether every bit of the other mask is set in this one. -/
def contains (a b : Architecture) : Bool := a.bits &&& b.bits = b.bits

/-- The bits of either mask. -/
def union (a b : Architecture) : Architecture := ⟨a.bits ||| b.bits⟩

/-- Whether no bit is set. -/
def isEmpty (a : Architecture) : Bool := a.bits = 0

/-- The mask as it is read: an unstated one is the full one. -/
def effective (a : Architecture) : Architecture := if a.isEmpty then every else a

/-- What the mask is limited to is not changed by the way it is read: an unstated mask has
no bits, and the full one is no limit. -/
theorem effective_limited_iff (a : Architecture) {b : Architecture} (hb : b.bits ≠ 0) :
    a.effective ≠ every ∧ a.effective.contains b ↔ a ≠ every ∧ a.contains b := by
  by_cases hempty : a.isEmpty
  · have hzero : a.bits = 0 := of_decide_eq_true hempty
    have hcontains : ¬a.contains b := by
      rw [contains, hzero, UInt8.zero_and, decide_eq_true_eq]
      exact Ne.symm hb
    simp [effective, hempty, hcontains]
  · rw [effective, if_neg hempty]

/-- The mask as text. Masks without a name are written as their byte. -/
def display (a : Architecture) : String :=
  if a = unstated then "None"
  else if a = every then "All"
  else if a = arch32 then "Arch32"
  else if a = arch64 then "Arch64"
  else if a = arch32.union arch64 then "Arch32 | Arch64"
  else "Arch(0x" ++ Text.hexByte a.bits ++ ")"

/-- The mask as text that says what it is. -/
def describe (a : Architecture) : String := "Architecture(" ++ a.display ++ ")"

/-- The mask as a JSON value, which is its byte. -/
def toJson (a : Architecture) : Json := .int a.bits.toNat

/-- Reads a mask. -/
def decode : Decoder Architecture := fun levels j => (Decoder.uint8 levels j).map Architecture.mk

end Architecture

end ApiAvailability
