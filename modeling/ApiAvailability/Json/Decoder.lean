/-
Reading domain values from JSON values.

A decoder gets, besides the value, the number of levels that may still be
nested in it: an array, an object, and an object that stands for a name each
take one. A host's text is read with a fixed allowance, so a hostile nesting is
refused; a value that is already in memory is read with its own depth, which no
decoder can use up. The allowance is also what makes the decoder of a nested
type end.

A structure may be written as an object, or as an array of its fields in their
order. Names that the structure does not declare are passed over with whatever
they hold, without a limit on its nesting, and a declared name may come once.
In an array no field may be too many, and one may be missing at the end only if
it has a value to fall back on.
-/
import ApiAvailability.Json.Basic
set_option autoImplicit false

namespace ApiAvailability

/-- Reads an `α` from a value in which at most the given number of levels may
be nested. -/
abbrev Decoder (α : Type) := Nat → Json → Option α

namespace Decoder

variable {α : Type}

/-- Reads a value with an allowance that it cannot use up. -/
def all? (d : Decoder α) (j : Json) : Option α :=
  d j.depth j

/-! ## Scalars -/

/-- A boolean; a number is not one. -/
def bool : Decoder Bool
  | _, .bool b => some b
  | _, _ => none

/-- A string that names a text. -/
def text : Decoder String
  | _, .str s => some s
  | _, _ => none

/-- A whole number from zero up to, and without, the bound. -/
def natBelow (bound : Nat) : Decoder Nat
  | _, .int (.ofNat n) => if n < bound then some n else none
  | _, _ => none

/-- A whole number of eight bits. -/
def uint8 : Decoder UInt8 := fun levels j => (natBelow UInt8.size levels j).map UInt8.ofNat

/-- A whole number of sixteen bits. -/
def uint16 : Decoder UInt16 := fun levels j => (natBelow UInt16.size levels j).map UInt16.ofNat

/-- A whole number of thirty-two bits. -/
def uint32 : Decoder UInt32 := fun levels j => (natBelow UInt32.size levels j).map UInt32.ofNat

/-- A whole number of sixty-four bits. -/
def uint64 : Decoder UInt64 := fun levels j => (natBelow UInt64.size levels j).map UInt64.ofNat

/-- A whole number of sixty-four bits with a sign. -/
def int64 : Decoder Int64
  | _, .int n =>
    if Int64.minValue.toInt ≤ n ∧ n ≤ Int64.maxValue.toInt then some (Int64.ofInt n) else none
  | _, _ => none

/-! ## Names, lists and absent values -/

/-- A value of an enumeration by its name, which is a string. -/
def label (ofName? : String → Option α) : Decoder α
  | _, .str name => ofName? name
  | _, _ => none

/-- A value of an enumeration by its name, which is a string, or the one name
of an object that holds null under it. -/
def choice (ofName? : String → Option α) : Decoder α
  | _, .str name => ofName? name
  | _ + 1, .obj [(name, .null)] => ofName? name
  | _, _ => none

/-- Null, or what `d` reads. -/
def nullable (d : Json → Option α) : Json → Option (Option α)
  | .null => some none
  | j => (d j).map some

/-- An array, each of whose elements `d` reads. -/
def list (d : Decoder α) : Decoder (List α)
  | levels + 1, .arr elements => elements.mapM (d levels)
  | _, _ => none

/-! ## Structures -/

/-- What a value holds for the fields of a structure. -/
structure Fields where
  /-- Whether the fields are given by their names, and not by their places. -/
  byName : Bool
  /-- The fields that are given, each at most once. -/
  given : List (String × Json)

/-- Whether no text comes twice. -/
def distinct : List String → Bool
  | [] => true
  | s :: ss => !ss.contains s && distinct ss

/-- The fields that a value holds for the declared names. With `closed`, an
object may hold no other names. -/
def Fields.ofJson? (declared : List String) (closed : Bool) : Json → Option Fields
  | .obj members =>
    let known := members.filter fun m => declared.contains m.1
    if distinct (known.map (·.1)) && (!closed || known.length == members.length) then
      some ⟨true, known⟩
    else none
  | .arr elements =>
    if elements.length ≤ declared.length then some ⟨false, declared.zip elements⟩ else none
  | _ => none

namespace Fields

/-- A field that has to be given. -/
def required (f : Fields) (name : String) (d : Json → Option α) : Option α :=
  (f.given.lookup name).bind d

/-- A field that is `fallback` when it is missing. -/
def withDefault (f : Fields) (name : String) (fallback : α) (d : Json → Option α) : Option α :=
  match f.given.lookup name with
  | some j => d j
  | none => some fallback

/-- A field that is `fallback` when it is missing among named fields, and that
has to be given among placed ones. -/
def omissible (f : Fields) (name : String) (fallback : α) (d : Json → Option α) : Option α :=
  match f.given.lookup name with
  | some j => d j
  | none => if f.byName then some fallback else none

end Fields

/-- A structure with the declared fields; other names are passed over. -/
def structured (declared : List String) (read : Nat → Fields → Option α) : Decoder α
  | 0, _ => none
  | levels + 1, j => (Fields.ofJson? declared false j).bind (read levels)

/-- A structure that admits no names but the declared ones. -/
def closedStructure (declared : List String) (read : Nat → Fields → Option α) : Decoder α
  | 0, _ => none
  | levels + 1, j => (Fields.ofJson? declared true j).bind (read levels)

end Decoder

end ApiAvailability
