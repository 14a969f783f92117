/-
The oldest system version for which an application is built.

It is written `major.minor` or `major.minor.patch`, each part a run of ASCII
digits with a value below 256; leading zeros do no harm, and blanks may
surround the whole. An API is compared with the major and the minor part alone.
-/
import ApiAvailability.Slot
set_option autoImplicit false

namespace ApiAvailability

/-- A deployment target; the patch is zero where none was written. -/
structure Deployment where
  major : UInt8
  minor : UInt8
  patch : UInt8
  deriving DecidableEq

/-- The text, without the blanks around it, that is not a version. -/
structure VersionError where
  text : String

/-- The wording of the error. -/
def VersionError.message (e : VersionError) : String := "invalid version '" ++ e.text ++ "'"

namespace Deployment

/-- The order of two targets: the first part in which they differ decides. -/
def compare (d e : Deployment) : Ordering :=
  (Ord.compare d.major e.major).then <|
    (Ord.compare d.minor e.minor).then <| Ord.compare d.patch e.patch

/-- The slot with which the facts for a platform are compared. -/
def target (d : Deployment) (p : Platform) : Slot := .ofVersion p d.major d.minor

/-- The target as text; a patch of zero is not written. -/
def display (d : Deployment) : String :=
  Text.decimal d.major.toNat ++ "." ++ Text.decimal d.minor.toNat ++
    (if d.patch > 0 then "." ++ Text.decimal d.patch.toNat else "")

/-! ## Reading -/

/-- The parts between the points. -/
def components (cs : List Char) : List (List Char) := cs.splitOn '.'

/-- The value of one part. -/
def component? (cs : List Char) : Option UInt8 :=
  (Text.digitsValue? cs).bind fun n => if n < 256 then some (UInt8.ofNat n) else none

/-- The target with these parts, of which there are two or three. -/
def ofComponents? : List UInt8 → Option Deployment
  | [major, minor] => some ⟨major, minor, 0⟩
  | [major, minor, patch] => some ⟨major, minor, patch⟩
  | _ => none

/-- The target that a text names. -/
def parse (text : String) : Except VersionError Deployment :=
  let trimmed := Text.trim text
  match ((components trimmed.toList).mapM component?).bind ofComponents? with
  | some d => .ok d
  | none => .error ⟨trimmed⟩

/-! ## As JSON -/

/-- The target as a JSON value. -/
def toJson (d : Deployment) : Json :=
  .obj [("major", .int d.major.toNat), ("minor", .int d.minor.toNat), ("patch", .int d.patch.toNat)]

/-- Reads a target. -/
def decode : Decoder Deployment :=
  .structured ["major", "minor", "patch"] fun levels f => do
    let major ← f.required "major" (Decoder.uint8 levels)
    let minor ← f.required "minor" (Decoder.uint8 levels)
    let patch ← f.required "patch" (Decoder.uint8 levels)
    pure ⟨major, minor, patch⟩

end Deployment

end ApiAvailability
