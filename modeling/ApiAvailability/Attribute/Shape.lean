/-
The shapes of attributes that say something here.

Advice is recognised by its whole namespace. The attributes of availability are
recognised by the last part of theirs, so that it does not matter whether the
host hands it over with what it is nested in. Every other attribute is of no
concern and never an error.
-/
import ApiAvailability.Attribute.Basic
import ApiAvailability.Record
set_option autoImplicit false

namespace ApiAvailability

/-- The shape of an attribute. -/
inductive Shape where
  /-- The introduction on one platform, with a version and perhaps a flag. -/
  | shorthand (p : Platform)
  /-- Facts of every kind, as encodings of 64 bits. -/
  | aggregate
  /-- A fact of one kind for one platform. -/
  | single (k : FactKind)
  /-- A text on how to use the API. -/
  | advice
  /-- Anything else. -/
  | unrecognized
  deriving DecidableEq

namespace Shape

/-- The namespace of the attributes of availability. -/
def interopScope : String := "ObjCRuntime"

/-- The namespace of advice. -/
def adviceScope : String := "Foundation"

/-- The type of advice. -/
def adviceType : String := "AdviceAttribute"

/-- The shape that a type of the interop namespace has. -/
def ofInteropType : String → Shape
  | "iOSAttribute" => shorthand .iOS
  | "MacAttribute" => shorthand .macOS
  | "AvailabilityAttribute" => aggregate
  | "IntroducedAttribute" => single .introduced
  | "DeprecatedAttribute" => single .deprecated
  | "ObsoletedAttribute" => single .obsoleted
  | "UnavailableAttribute" => single .unavailable
  | _ => unrecognized

/-- Whether an attribute of this shape states facts. -/
def isAvailability : Shape → Bool
  | shorthand _ => true
  | aggregate => true
  | single _ => true
  | advice => false
  | unrecognized => false

end Shape

namespace Attribute

/-- The last part of a namespace, after its last point if it has one. -/
def innermostScope (scope : String) : String :=
  String.ofList ((scope.toList.splitOn '.').getLast?.getD [])

/-- The shape of an attribute. -/
def shape (a : Attribute) : Shape :=
  if a.scope = Shape.adviceScope ∧ a.typeName = Shape.adviceType then .advice
  else if innermostScope a.scope = Shape.interopScope then Shape.ofInteropType a.typeName
  else .unrecognized

/-- The text of an advice: its first argument, and an empty text if that is
null. Advice without arguments, and every other attribute, has no text. -/
def advice? (a : Attribute) : Option String :=
  if a.shape = .advice then a.arguments.head?.map fun first => first.display?.getD "" else none

end Attribute

end ApiAvailability
