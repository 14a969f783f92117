/-
The constant arguments of attributes.

A host may hand over one and the same number as a byte, as a signed or as an
unsigned integer, depending on how it sees an enumeration. Whoever reads a
number therefore asks for its value and the range, and never for the form.
-/
import ApiAvailability.Json.Decoder
import ApiAvailability.Text.Decimal
set_option autoImplicit false

namespace ApiAvailability

/-- A constant argument. -/
inductive Argument where
  | null
  | bool (b : Bool)
  | byte (n : UInt8)
  | int (n : Int64)
  | ulong (n : UInt64)
  | str (s : String)
  deriving DecidableEq

namespace Argument

/-! ## Values -/

/-- The number that the argument stands for, whatever its form. -/
def number? : Argument → Option Int
  | byte n => some n.toNat
  | int n => some n.toInt
  | ulong n => some n.toNat
  | _ => none

/-- The argument as a byte, if it is a number from 0 to 255. -/
def byte? (a : Argument) : Option UInt8 :=
  a.number?.bind fun n => if 0 ≤ n ∧ n < UInt8.size then some (UInt8.ofNat n.toNat) else none

/-- The argument as an unsigned number of 64 bits, if it is one. -/
def encoding? (a : Argument) : Option UInt64 :=
  a.number?.bind fun n => if 0 ≤ n ∧ n < UInt64.size then some (UInt64.ofNat n.toNat) else none

/-- The argument as a boolean. -/
def bool? : Argument → Option Bool
  | bool b => some b
  | _ => none

/-- The argument as a text; null is none. -/
def text? : Argument → Option String
  | str s => some s
  | _ => none

/-- The argument as the host shows it; null is not shown. -/
def display? : Argument → Option String
  | null => none
  | bool true => some "true"
  | bool false => some "false"
  | byte n => some (Text.decimal n.toNat)
  | int n => some (Text.signedDecimal n.toInt)
  | ulong n => some (Text.decimal n.toNat)
  | str s => some s

/-! ## As JSON -/

/-- The argument as a JSON value: its form, and its value unless it is null. -/
def toJson : Argument → Json
  | null => .obj [("type", .str "null")]
  | bool b => .obj [("type", .str "bool"), ("value", .bool b)]
  | byte n => .obj [("type", .str "byte"), ("value", .int n.toNat)]
  | int n => .obj [("type", .str "int"), ("value", .int n.toInt)]
  | ulong n => .obj [("type", .str "ulong"), ("value", .int n.toNat)]
  | str s => .obj [("type", .str "str"), ("value", .str s)]

/-- The forms of an argument. -/
inductive Form where
  | null
  | bool
  | byte
  | int
  | ulong
  | str

/-- The form with this name. -/
def Form.ofName? : String → Option Form
  | "null" => some null
  | "bool" => some bool
  | "byte" => some byte
  | "int" => some int
  | "ulong" => some ulong
  | "str" => some str
  | _ => none

/-- Reads the value of an argument of a form. -/
def decodeValue : Form → Decoder Argument
  | .null => fun _ j => match j with
    | .null => some null
    | _ => none
  | .bool => fun levels j => (Decoder.bool levels j).map bool
  | .byte => fun levels j => (Decoder.uint8 levels j).map byte
  | .int => fun levels j => (Decoder.int64 levels j).map int
  | .ulong => fun levels j => (Decoder.uint64 levels j).map ulong
  | .str => fun levels j => (Decoder.text levels j).map str

/-- The value of an argument whose value is missing: only null has one. -/
def ofMissingValue? : Form → Option Argument
  | .null => some null
  | _ => none

/-- Reads the form of an argument. The long way to write a name, as an object,
is open to a form that is given by name; a form that is given by its place is a
string. -/
def decodeForm (byName : Bool) : Decoder Form :=
  if byName then .choice Form.ofName? else .label Form.ofName?

/-- Reads an argument. Its value can be left out only by name, and only of
null. -/
def decode : Decoder Argument :=
  .structured ["type", "value"] fun levels f => do
    let form ← f.required "type" (decodeForm f.byName levels)
    match f.given.lookup "value" with
    | some j => decodeValue form levels j
    | none => if f.byName then ofMissingValue? form else none

end Argument

end ApiAvailability
