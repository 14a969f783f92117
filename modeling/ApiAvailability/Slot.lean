/-
One platform's availability: an architecture mask and a version.

A slot has four bytes besides the platform it names: architecture, major,
minor, subminor. Packed in this order, `AAJJNNSS`, they are one word of 32 bits.
A slot whose bytes are all zero states nothing. Two slots are ordered by their
versions alone, major first; the architecture and the platform do not count.

There are two ways to combine slots. `union` takes the bits of both, byte by
byte, so a byte of which one side states nothing comes out clean, and two
different versions blend into each other. `newest` takes the later version whole
and the architectures of both. Either keeps the platform of the first slot.
-/
import ApiAvailability.Architecture
import ApiAvailability.Platform
set_option autoImplicit false

namespace ApiAvailability

/-- The availability of an API on one platform. -/
structure Slot where
  platform : Platform
  arch : Architecture
  major : UInt8
  minor : UInt8
  subminor : UInt8
  deriving DecidableEq

namespace Slot

/-! ## Making slots -/

/-- The slot that states nothing for a platform. -/
def unspecified (p : Platform) : Slot := ⟨p, .unstated, 0, 0, 0⟩

/-- The slot of a version with two parts, on every architecture. -/
def ofVersion (p : Platform) (major minor : UInt8) : Slot := ⟨p, .every, major, minor, 0⟩

/-- Whether any of the four bytes says something. -/
def isSpecified (s : Slot) : Bool :=
  s.arch.bits ≠ 0 || s.major ≠ 0 || s.minor ≠ 0 || s.subminor ≠ 0

/-! ## Words -/

/-- The word `AAJJNNSS` of a slot. -/
def packed (s : Slot) : UInt32 :=
  s.arch.bits.toUInt32 <<< 24 ||| s.major.toUInt32 <<< 16 ||| s.minor.toUInt32 <<< 8 |||
    s.subminor.toUInt32

/-- The slot of a platform with this word. -/
def ofPacked (p : Platform) (word : UInt32) : Slot where
  platform := p
  arch := ⟨(word >>> 24).toUInt8⟩
  major := (word >>> 16).toUInt8
  minor := (word >>> 8).toUInt8
  subminor := word.toUInt8

/-! ## Order -/

/-- The three parts of the version. -/
def version (s : Slot) : UInt8 × UInt8 × UInt8 := (s.major, s.minor, s.subminor)

/-- The order of two versions: the first part in which they differ decides. -/
def compareVersion (s t : Slot) : Ordering :=
  (compare s.major t.major).then <|
    (compare s.minor t.minor).then <| compare s.subminor t.subminor

/-- The order of a slot and one that may be missing; a missing one comes
before every slot. -/
def compareTo (s : Slot) : Option Slot → Ordering
  | some t => s.compareVersion t
  | none => .gt

/-! ## Combining -/

/-- The slot with the bits of both, byte by byte. -/
def union (s t : Slot) : Slot where
  platform := s.platform
  arch := s.arch.union t.arch
  major := s.major ||| t.major
  minor := s.minor ||| t.minor
  subminor := s.subminor ||| t.subminor

/-- The later of two versions with the architectures of both. Where only one
of the slots says something, that one; of equal versions, the first. -/
def newest (s t : Slot) : Slot :=
  if !t.isSpecified then s
  else if !s.isSpecified then { t with platform := s.platform }
  else
    let later := if t.compareVersion s = .gt then t else s
    { later with platform := s.platform, arch := s.arch.union t.arch }

/-! ## As text -/

/-- The major part that stands for every version. -/
def anyVersion : UInt8 := 0xff

/-- The slot as messages name it: the platform with its version if it has one,
else with the one architecture to which it is limited, else alone. -/
def fullName (s : Slot) : String :=
  let name := s.platform.displayName
  if s.major > 0 && s.major ≠ anyVersion then
    name ++ " " ++ Text.decimal s.major.toNat ++ "." ++ Text.decimal s.minor.toNat
  else if s.arch.effective = .arch32 then name ++ " 32-bit"
  else if s.arch.effective = .arch64 then name ++ " 64-bit"
  else name

/-- The constant that stands for the version, if there is a major part. -/
def versionConstant (s : Slot) : List String :=
  if s.major > 0 then
    ["Platform." ++ s.platform.displayName ++ "_" ++ Text.decimal s.major.toNat ++ "_" ++
      Text.decimal s.minor.toNat ++
      (if s.subminor > 0 then "_" ++ Text.decimal s.subminor.toNat else "")]
  else []

/-- The constants that stand for the named architectures, unless the mask is
the full one. -/
def archConstants (s : Slot) : List String :=
  let mask := s.arch.effective
  if mask = .every then []
  else
    [(Architecture.arch32, "Arch32"), (Architecture.arch64, "Arch64")].filterMap fun a =>
      if mask.contains a.1 then some ("Platform." ++ s.platform.displayName ++ "_" ++ a.2) else none

/-- The slot as an expression over the platform constants; empty for one that
states nothing. -/
def display (s : Slot) : String :=
  if s.isSpecified then " | ".intercalate (s.versionConstant ++ s.archConstants) else ""

/-! ## As JSON -/

/-- The slot as a JSON value. -/
def toJson (s : Slot) : Json :=
  .obj [("name", s.platform.toJson), ("arch", s.arch.toJson), ("major", .int s.major.toNat),
    ("minor", .int s.minor.toNat), ("subminor", .int s.subminor.toNat)]

/-- Reads a slot. -/
def decode : Decoder Slot :=
  .structured ["name", "arch", "major", "minor", "subminor"] fun levels f => do
    let platform ← f.required "name" (Platform.decode levels)
    let arch ← f.required "arch" (Architecture.decode levels)
    let major ← f.required "major" (Decoder.uint8 levels)
    let minor ← f.required "minor" (Decoder.uint8 levels)
    let subminor ← f.required "subminor" (Decoder.uint8 levels)
    pure ⟨platform, arch, major, minor, subminor⟩

end Slot

end ApiAvailability
