/-
One occurrence of an attribute, as a host describes it.

The type is given by its namespace and its name. Positional arguments come in
their order, and named ones in the order of the source, since the same name may
come more than once and the texts under it add up.
-/
import ApiAvailability.Attribute.Argument
set_option autoImplicit false

namespace ApiAvailability

/-- An argument that is given by name. -/
structure NamedArgument where
  name : String
  value : Argument
  deriving DecidableEq

/-- An attribute of a symbol. -/
structure Attribute where
  scope : String
  typeName : String
  arguments : List Argument
  named : List NamedArgument
  deriving DecidableEq

namespace NamedArgument

/-- The argument as a JSON value. -/
def toJson (a : NamedArgument) : Json :=
  .obj [("name", .str a.name), ("value", a.value.toJson)]

/-- Reads a named argument. -/
def decode : Decoder NamedArgument :=
  .structured ["name", "value"] fun levels f => do
    let name ← f.required "name" (Decoder.text levels)
    let value ← f.required "value" (Argument.decode levels)
    pure ⟨name, value⟩

end NamedArgument

namespace Attribute

/-- The attribute with one more named argument. -/
def withNamed (a : Attribute) (name : String) (value : Argument) : Attribute :=
  { a with named := a.named ++ [⟨name, value⟩] }

/-- The attribute as a JSON value. -/
def toJson (a : Attribute) : Json :=
  .obj [("namespace", .str a.scope), ("type_name", .str a.typeName),
    ("constructor_args", .arr (a.arguments.map Argument.toJson)),
    ("named_args", .arr (a.named.map NamedArgument.toJson))]

/-- Reads an attribute; without arguments of a sort, it has none. -/
def decode : Decoder Attribute :=
  .structured ["namespace", "type_name", "constructor_args", "named_args"] fun levels f => do
    let scope ← f.required "namespace" (Decoder.text levels)
    let typeName ← f.required "type_name" (Decoder.text levels)
    let arguments ← f.withDefault "constructor_args" [] (Decoder.list Argument.decode levels)
    let named ← f.withDefault "named_args" [] (Decoder.list NamedArgument.decode levels)
    pure ⟨scope, typeName, arguments, named⟩

end Attribute

end ApiAvailability
