/-
A slot for each of the four platforms.

The slots are held by position. Sets that this library makes hold in each
position a slot that names the platform of that position; a set that was read
from JSON may hold any name there, and keeps it, because combining slots keeps
the name on the left. `get` goes by position.
-/
import ApiAvailability.Slot
set_option autoImplicit false

namespace ApiAvailability

/-- How two slots for the same platform are combined. -/
inductive ConflictPolicy where
  /-- The bits of both: different versions blend. -/
  | bitwiseOr
  /-- The later version, with the architectures of both. -/
  | preferNewest
  deriving DecidableEq

namespace ConflictPolicy

/-- What is used where nobody chooses. -/
def standard : ConflictPolicy := bitwiseOr

/-- The combination of two slots. -/
def combine : ConflictPolicy → Slot → Slot → Slot
  | bitwiseOr => Slot.union
  | preferNewest => Slot.newest

/-- The name of the policy, in settings and in JSON. -/
def name : ConflictPolicy → String
  | bitwiseOr => "bitwise-or"
  | preferNewest => "prefer-newest"

/-- The policy with this name. -/
def ofName? : String → Option ConflictPolicy
  | "bitwise-or" => some bitwiseOr
  | "prefer-newest" => some preferNewest
  | _ => none

@[simp] theorem ofName?_name (p : ConflictPolicy) : ofName? p.name = some p := by
  cases p <;> rfl

/-- The policy as a JSON value. -/
def toJson (p : ConflictPolicy) : Json := .str p.name

/-- Reads a policy. -/
def decode : Decoder ConflictPolicy := .choice ofName?

end ConflictPolicy

/-- A slot for every platform. -/
structure SlotSet where
  iOS : Slot
  macOS : Slot
  watchOS : Slot
  tvOS : Slot
  deriving DecidableEq

namespace SlotSet

/-! ## Making sets -/

/-- The set that states nothing. -/
def empty : SlotSet where
  iOS := .unspecified .iOS
  macOS := .unspecified .macOS
  watchOS := .unspecified .watchOS
  tvOS := .unspecified .tvOS

/-- The set whose one slot goes to the position of the platform that it names;
the empty set if it names none. -/
def single (s : Slot) : SlotSet :=
  match s.platform with
  | .iOS => { empty with iOS := s }
  | .macOS => { empty with macOS := s }
  | .watchOS => { empty with watchOS := s }
  | .tvOS => { empty with tvOS := s }
  | .none => empty

/-- The set that an encoding of 64 bits stands for: the low word is the slot of
iOS and the high word that of macOS. It cannot speak of the other two. -/
def ofEncoding (encoding : UInt64) : SlotSet :=
  { empty with
    iOS := .ofPacked .iOS encoding.toUInt32
    macOS := .ofPacked .macOS (encoding >>> 32).toUInt32 }

/-! ## Looking at sets -/

/-- The slot in the position of a platform. -/
def get (t : SlotSet) : Platform → Option Slot
  | .iOS => some t.iOS
  | .macOS => some t.macOS
  | .watchOS => some t.watchOS
  | .tvOS => some t.tvOS
  | .none => none

/-- The slots in the order in which they are listed. -/
def slots (t : SlotSet) : List Slot := [t.iOS, t.macOS, t.watchOS, t.tvOS]

/-- Whether any slot says something. -/
def isSpecified (t : SlotSet) : Bool := t.slots.any Slot.isSpecified

/-- Whether the slot of a platform says something. -/
def isSpecifiedFor (t : SlotSet) (p : Platform) : Bool := (t.get p).any Slot.isSpecified

/-- The slot of a platform as messages name it; empty where there is no slot. -/
def fullNameFor (t : SlotSet) (p : Platform) : String := ((t.get p).map Slot.fullName).getD ""

/-- The set as an expression over the platform constants, without the slots
that have nothing to show. -/
def display (t : SlotSet) : String :=
  " | ".intercalate ((t.slots.map Slot.display).filter (· ≠ ""))

/-! ## Combining -/

/-- The slots of two sets, combined position by position. -/
def merge (policy : ConflictPolicy) (t u : SlotSet) : SlotSet where
  iOS := policy.combine t.iOS u.iOS
  macOS := policy.combine t.macOS u.macOS
  watchOS := policy.combine t.watchOS u.watchOS
  tvOS := policy.combine t.tvOS u.tvOS

/-- The bits of both sets. -/
def union (t u : SlotSet) : SlotSet := merge .bitwiseOr t u

/-- `t ||| u` is the union. -/
instance : OrOp SlotSet := ⟨union⟩

/-- Combining goes by position. -/
theorem get_merge (policy : ConflictPolicy) (t u : SlotSet) (p : Platform) :
    (merge policy t u).get p = (t.get p).bind fun s => (u.get p).map (policy.combine s) := by
  cases p <;> rfl

/-! ## As JSON -/

/-- The set as a JSON value. -/
def toJson (t : SlotSet) : Json :=
  .obj [("ios", t.iOS.toJson), ("macos", t.macOS.toJson), ("watchos", t.watchOS.toJson),
    ("tvos", t.tvOS.toJson)]

/-- Reads a set. The platforms that its slots name are taken as they are. -/
def decode : Decoder SlotSet :=
  .structured ["ios", "macos", "watchos", "tvos"] fun levels f => do
    let iOS ← f.required "ios" (Slot.decode levels)
    let macOS ← f.required "macos" (Slot.decode levels)
    let watchOS ← f.required "watchos" (Slot.decode levels)
    let tvOS ← f.required "tvos" (Slot.decode levels)
    pure ⟨iOS, macOS, watchOS, tvOS⟩

end SlotSet

end ApiAvailability
