/-
A symbol that source code refers to: an API with its attributes.

A property has its accessors beside it, and a member the type that declares it;
each of these is a symbol again.
-/
import ApiAvailability.Access
import ApiAvailability.Attribute.Basic
set_option autoImplicit false

namespace ApiAvailability

/-- What a symbol is. -/
inductive SymbolKind where
  | type
  | method
  | property
  | field
  | event
  deriving DecidableEq

namespace SymbolKind

/-- The name of the kind in JSON. -/
def name : SymbolKind → String
  | type => "type"
  | method => "method"
  | property => "property"
  | field => "field"
  | event => "event"

/-- The kind with this name. -/
def ofName? : String → Option SymbolKind
  | "type" => some type
  | "method" => some method
  | "property" => some property
  | "field" => some field
  | "event" => some event
  | _ => none

@[simp] theorem ofName?_name (k : SymbolKind) : ofName? k.name = some k := by
  cases k <;> rfl

/-- The kind as a JSON value. -/
def toJson (k : SymbolKind) : Json := .str k.name

/-- Reads a kind. -/
def decode : Decoder SymbolKind := .choice ofName?

end SymbolKind

/-- A symbol. -/
structure Symbol where
  name : String
  kind : SymbolKind
  attributes : List Attribute
  getter : Option Symbol
  setter : Option Symbol
  declaringType : Option Symbol

namespace Symbol

/-- A symbol with a name alone. -/
def plain (name : String) (kind : SymbolKind) : Symbol := ⟨name, kind, [], none, none, none⟩

/-- The accessor of the symbol, if it has it. -/
def accessor (s : Symbol) : Accessor → Option Symbol
  | .getter => s.getter
  | .setter => s.setter

/-! ## As JSON -/

/-- A member of an object, which is left out where there is no value. -/
def optionalMember (name : String) (value : Option Json) : List (String × Json) :=
  (value.map fun j => (name, j)).toList

mutual

/-- The symbol as a JSON value. The symbols beside it are left out where there
are none. -/
def toJson : Symbol → Json
  | ⟨name, kind, attributes, getter, setter, declaringType⟩ =>
    .obj ([("name", .str name), ("kind", kind.toJson),
        ("attributes", .arr (attributes.map Attribute.toJson))] ++
      optionalMember "getter" (toJson? getter) ++ optionalMember "setter" (toJson? setter) ++
      optionalMember "containing_type" (toJson? declaringType))

/-- The JSON value of a symbol that may be missing. -/
def toJson? : Option Symbol → Option Json
  | some s => some s.toJson
  | none => none

end

/-- The fields of a symbol. -/
def fieldNames : List String :=
  ["name", "kind", "attributes", "getter", "setter", "containing_type"]

/-- Reads a symbol. The symbols beside it are read with one level less. -/
def decode : Decoder Symbol
  | 0, _ => none
  | levels + 1, j => do
    let f ← Decoder.Fields.ofJson? fieldNames false j
    let name ← f.required "name" (Decoder.text levels)
    let kind ← f.required "kind" (SymbolKind.decode levels)
    let attributes ← f.withDefault "attributes" [] (Decoder.list Attribute.decode levels)
    let getter ← f.withDefault "getter" none (Decoder.nullable (decode levels))
    let setter ← f.withDefault "setter" none (Decoder.nullable (decode levels))
    let declaringType ← f.withDefault "containing_type" none (Decoder.nullable (decode levels))
    pure ⟨name, kind, attributes, getter, setter, declaringType⟩

end Symbol

end ApiAvailability
