/-
The use of a symbol at one place of the source.

A host hands over its uses as one JSON text, an array. It is read strictly, and
no more than 127 levels deep.
-/
import ApiAvailability.Diagnostic.Basic
import ApiAvailability.Json.Reader
import ApiAvailability.Symbol
set_option autoImplicit false

namespace ApiAvailability

/-- The operation by which a symbol is used. -/
inductive Operation where
  | eventReference
  | fieldReference
  | invocation
  | methodReference
  | propertyReference
  | objectCreation
  /-- Any other operation; its use is not looked at. -/
  | other
  deriving DecidableEq

namespace Operation

/-- The operations whose uses are looked at. -/
def ofInterest : List Operation :=
  [eventReference, fieldReference, invocation, methodReference, propertyReference, objectCreation]

/-- Whether a use by this operation is looked at. -/
def isOfInterest (o : Operation) : Bool := o ≠ other

/-- Every operation but `other` is looked at. -/
theorem mem_ofInterest_iff (o : Operation) : o ∈ ofInterest ↔ o.isOfInterest := by
  cases o <;> decide

/-- The name of the operation in JSON. -/
def name : Operation → String
  | eventReference => "event_reference"
  | fieldReference => "field_reference"
  | invocation => "invocation"
  | methodReference => "method_reference"
  | propertyReference => "property_reference"
  | objectCreation => "object_creation"
  | other => "other"

/-- The operation with this name; every name that is not known is another
operation. -/
def ofName : String → Operation
  | "event_reference" => eventReference
  | "field_reference" => fieldReference
  | "invocation" => invocation
  | "method_reference" => methodReference
  | "property_reference" => propertyReference
  | "object_creation" => objectCreation
  | _ => other

@[simp] theorem ofName_name (o : Operation) : ofName o.name = o := by
  cases o <;> rfl

/-- The operation as a JSON value. -/
def toJson (o : Operation) : Json := .str o.name

/-- Reads an operation. -/
def decode : Decoder Operation := .choice fun name => some (ofName name)

end Operation

/-- A use of a symbol. -/
structure UseSite where
  symbol : Symbol
  operation : Operation
  /-- How a property is accessed; of no account for other symbols. -/
  access : Access
  location : Option Location

namespace UseSite

/-- The use as a JSON value. The place is left out where there is none. -/
def toJson (u : UseSite) : Json :=
  .obj ([("symbol", u.symbol.toJson), ("operation", u.operation.toJson),
      ("access", u.access.toJson)] ++
    Symbol.optionalMember "location" (u.location.map Location.toJson))

/-- Reads a use. -/
def decode : Decoder UseSite :=
  .structured ["symbol", "operation", "access", "location"] fun levels f => do
    let symbol ← f.required "symbol" (Symbol.decode levels)
    let operation ← f.required "operation" (Operation.decode levels)
    let access ← f.withDefault "access" .read (Access.decode levels)
    let location ← f.withDefault "location" none (Decoder.nullable (Location.decode levels))
    pure ⟨symbol, operation, access, location⟩

/-- How deep the types in a text may be nested. -/
def maxLevels : Nat := 127

/-- The uses that a JSON text holds. -/
def readAll? (text : String) : Option (List UseSite) :=
  (Json.read? text).bind (Decoder.list decode maxLevels)

end UseSite

end ApiAvailability
