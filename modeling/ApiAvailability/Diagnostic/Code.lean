/-
The codes of diagnostics: the mark of a category and a number.

A code is written with its number filled up to four digits, so a number beyond
9999 is written with five. Only four digits are read back: the mark may be in
any ASCII case, and nothing may stand before, between or after.
-/
import ApiAvailability.Json.Decoder
import ApiAvailability.Text.Decimal
set_option autoImplicit false

namespace ApiAvailability

/-- What a code is about. -/
inductive Category where
  /-- The use of the APIs of Apple's platforms. -/
  | apple
  deriving DecidableEq

namespace Category

/-- The letters with which the codes of the category start. -/
def mark : Category → String
  | apple => "XIA"

/-- The category with this mark. -/
def ofMark? : String → Option Category
  | "XIA" => some apple
  | _ => none

@[simp] theorem ofMark?_mark (c : Category) : ofMark? c.mark = some c := by
  cases c; rfl

/-- The name of the category in JSON. -/
def jsonName : Category → String
  | apple => "Apple"

/-- The category with this name in JSON. -/
def ofJsonName? : String → Option Category
  | "Apple" => some apple
  | _ => none

@[simp] theorem ofJsonName?_jsonName (c : Category) : ofJsonName? c.jsonName = some c := by
  cases c; rfl

/-- Reads a category. -/
def decode : Decoder Category := .choice ofJsonName?

end Category

/-- The code of a diagnostic. -/
structure Code where
  category : Category
  number : UInt16
  deriving DecidableEq

/-- The text that is not a code. -/
structure CodeError where
  text : String

/-- The wording of the error. -/
def CodeError.message (e : CodeError) : String := "invalid diagnostic code '" ++ e.text ++ "'"

namespace Code

/-! ## As text -/

/-- The code as it is written. -/
def display (c : Code) : String := c.category.mark ++ Text.paddedDecimal 4 c.number.toNat

/-- The number that four ASCII digits stand for. -/
def number? (digits : List Char) : Option UInt16 :=
  if digits.length = 4 then (Text.digitsValue? digits).map UInt16.ofNat else none

/-- The code that a text is. Its mark ends where its first digit comes. -/
def parse? (text : String) : Option Code := do
  let start := text.toList.takeWhile (!·.isDigit)
  let digits := text.toList.dropWhile (!·.isDigit)
  let category ← Category.ofMark? (Text.asciiUpper (String.ofList start))
  let number ← number? digits
  pure ⟨category, number⟩

/-- The code that a text is, or the error that quotes it. -/
def parse (text : String) : Except CodeError Code :=
  match parse? text with
  | some c => .ok c
  | none => .error ⟨text⟩

/-- The texts of codes in the order of text, each text once. -/
def labels (codes : List Code) : List String :=
  ((codes.map display).mergeSort (· ≤ ·)).eraseDups

/-! ## As JSON -/

/-- The code as a JSON value. -/
def toJson (c : Code) : Json :=
  .obj [("category", .str c.category.jsonName), ("number", .int c.number.toNat)]

/-- Reads a code. -/
def decode : Decoder Code :=
  .structured ["category", "number"] fun levels f => do
    let category ← f.required "category" (Category.decode levels)
    let number ← f.required "number" (Decoder.uint16 levels)
    pure ⟨category, number⟩

end Code

end ApiAvailability
