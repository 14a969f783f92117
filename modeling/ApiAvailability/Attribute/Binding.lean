/-
Attributes as the bindings write them.

Each of these is in one of the forms that `Attribute.reading` knows, so that
what went into it comes out of it.
-/
import ApiAvailability.Attribute.Shape
set_option autoImplicit false

namespace ApiAvailability.Attribute

/-- The introduction on iOS in a version. -/
def ios (major minor : UInt8) : Attribute :=
  ⟨Shape.interopScope, "iOSAttribute", [.byte major, .byte minor], []⟩

/-- The introduction on macOS in a version, perhaps on 64-bit only. -/
def mac (major minor : UInt8) (only64 : Bool) : Attribute :=
  ⟨Shape.interopScope, "MacAttribute", [.byte major, .byte minor, .bool only64], []⟩

/-- The form with five arguments of a fact for one platform. Only the platform
and the architecture are bytes; a message that is missing is null. -/
def single (k : FactKind) (p : Platform) (major minor : UInt8) (arch : Architecture)
    (message : Option String) : Attribute :=
  ⟨Shape.interopScope, k.name ++ "Attribute",
    [.byte p.toByte, .int (Int64.ofNat major.toNat), .int (Int64.ofNat minor.toNat),
      .byte arch.bits, (message.map Argument.str).getD .null], []⟩

/-- Encodings for the kinds of facts in their order. -/
def aggregate (encodings : List UInt64) : Attribute :=
  ⟨Shape.interopScope, "AvailabilityAttribute", encodings.map Argument.ulong, []⟩

/-- A text on how to use the API. -/
def ofAdvice (text : String) : Attribute :=
  ⟨Shape.adviceScope, Shape.adviceType, [.str text], []⟩

end ApiAvailability.Attribute
