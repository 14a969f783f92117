/-
JSON text, read strictly into values.

The grammar is the plain one: four blank characters, no comments, no comma at
the end, no leading zeros and no sign but the minus, no control character in a
string, and nothing before or after the one value, not even a byte order mark.
Nesting has no limit here; who reads the value sets one if there is to be one.

Escapes of the form `\uXXXX` name units of sixteen bits. Two of them may make
one character; a half that stands alone is well-formed but names no text, and
the string, or the object whose member it would name, is then `unpaired`.
-/
import ApiAvailability.Json.Basic
import ApiAvailability.Text.Decimal
import ApiAvailability.Text.Scan
set_option autoImplicit false

namespace ApiAvailability.Json

/-! ## Blanks and numbers -/

/-- The characters that may stand between the parts of a value. -/
def isBlank (c : Char) : Bool :=
  c = ' ' || c = '\t' || c = '\n' || c = '\r'

/-- Passes over blanks. -/
def blanks : Scan Unit := do
  let _ ← Scan.takeWhile isBlank

/-- The digits before the point: a lone zero, or digits that do not start with
one. -/
def wholeDigits : Scan (List Char) := do
  let digits ← Scan.takeSome Char.isDigit
  if digits.length > 1 && digits.head? == some '0' then failure else pure digits

/-- The point and the digits after it, or nothing. -/
def fraction : Scan (List Char) := do
  if ← Scan.accept ['.'] then
    let digits ← Scan.takeSome Char.isDigit
    pure ('.' :: digits)
  else pure []

/-- The mark, the sign and the digits of an exponent, or nothing. -/
def exponent : Scan (List Char) := do
  let mark ← Scan.peek
  if mark == some 'e' || mark == some 'E' then
    let e ← Scan.next
    let sign ← Scan.peek
    let signs ← if sign == some '+' || sign == some '-' then Scan.take 1 else pure []
    let digits ← Scan.takeSome Char.isDigit
    pure (e :: signs ++ digits)
  else pure []

/-- A number. It is a whole number when it has neither fraction nor exponent
and is not minus zero. -/
def number : Scan Json := do
  let negative ← Scan.accept ['-']
  let whole ← wholeDigits
  let frac ← fraction
  let exp ← exponent
  let value := Nat.ofDigitChars 10 whole 0
  if frac.isEmpty && exp.isEmpty && !(negative && value == 0) then
    pure (int (if negative then -(value : Int) else value))
  else
    pure (real (String.ofList ((if negative then ['-'] else []) ++ whole ++ frac ++ exp)))

/-! ## Strings -/

/-- A part of a string literal: a character, or the unit of sixteen bits that
an escape names by its digits. -/
inductive Unit16 where
  | char (c : Char)
  | escaped (unit : Nat)

/-- Whether the unit is the first half of a surrogate pair. -/
def isHighHalf (unit : Nat) : Bool := 0xD800 ≤ unit && unit < 0xDC00

/-- Whether the unit is the second half of a surrogate pair. -/
def isLowHalf (unit : Nat) : Bool := 0xDC00 ≤ unit && unit < 0xE000

/-- The characters that the parts name; none if a half of a pair stands alone. -/
def charsOfUnits? : List Unit16 → Option (List Char)
  | [] => some []
  | .char c :: rest => (charsOfUnits? rest).map (c :: ·)
  | .escaped u :: .escaped v :: rest =>
    if isHighHalf u && isLowHalf v then
      (charsOfUnits? rest).map (Char.ofNat (0x10000 + (u - 0xD800) * 0x400 + (v - 0xDC00)) :: ·)
    else if isHighHalf u || isLowHalf u then none
    else (charsOfUnits? (.escaped v :: rest)).map (Char.ofNat u :: ·)
  | .escaped u :: rest =>
    if isHighHalf u || isLowHalf u then none else (charsOfUnits? rest).map (Char.ofNat u :: ·)

/-- What follows the backslash of an escape. -/
def escapedUnit : Scan Unit16 := do
  match ← Scan.next with
  | '"' => pure (.char '"')
  | '\\' => pure (.char '\\')
  | '/' => pure (.char '/')
  | 'b' => pure (.char '\x08')
  | 'f' => pure (.char '\x0c')
  | 'n' => pure (.char '\n')
  | 'r' => pure (.char '\r')
  | 't' => pure (.char '\t')
  | 'u' =>
    match Text.hexValue? (← Scan.take 4) with
    | some unit => pure (.escaped unit)
    | none => failure
  | _ => failure

/-- One part of a string: an escape, or a character that is no control
character. -/
def stringUnit : Scan (List Unit16) := do
  let c ← Scan.next
  if c = '\\' then return [← escapedUnit]
  else if c.toNat < 0x20 then failure
  else pure [.char c]

/-- The parts of a string whose opening quote has been read, up to its closing
quote. -/
def stringUnits : Scan (List Unit16) :=
  Scan.bounded (Scan.piecesUntil (do pure (if ← Scan.accept ['"'] then some [] else none)) stringUnit)

/-- The text of a string whose opening quote has been read; none if it names no
text. -/
def stringText? : Scan (Option String) := do
  pure ((charsOfUnits? (← stringUnits)).map String.ofList)

/-! ## Values -/

/-- The object with these members, if all their names are texts. -/
def objOfNamed (members : List (Option String × Json)) : Json :=
  match members.mapM fun m => m.1.map (·, m.2) with
  | some named => obj named
  | none => unpaired

mutual

/-- A value that starts at the next character. -/
def value : Nat → Scan Json
  | 0 => failure
  | rounds + 1 => do
    match ← Scan.peek with
    | some '\x7b' => Scan.expect ['\x7b']; blanks
                     if ← Scan.accept ['\x7d'] then pure (obj [])
                     else pure (objOfNamed (← members rounds))
    | some '[' => Scan.expect ['[']; blanks
                  if ← Scan.accept [']'] then pure (arr [])
                  else pure (arr (← elements rounds))
    | some '"' => Scan.expect ['"']
                  match ← stringText? with
                  | some s => pure (str s)
                  | none => pure unpaired
    | some 't' => Scan.expect "true".toList; pure (bool true)
    | some 'f' => Scan.expect "false".toList; pure (bool false)
    | some 'n' => Scan.expect "null".toList; pure null
    | _ => number

/-- The elements of an array, from the first one to the closing bracket. -/
def elements : Nat → Scan (List Json)
  | 0 => failure
  | rounds + 1 => do
    let first ← value rounds
    blanks
    if ← Scan.accept [','] then
      blanks
      return first :: (← elements rounds)
    else
      Scan.expect [']']
      pure [first]

/-- The members of an object, from the first one to the closing brace. -/
def members : Nat → Scan (List (Option String × Json))
  | 0 => failure
  | rounds + 1 => do
    Scan.expect ['"']
    let name ← stringText?
    blanks
    Scan.expect [':']
    blanks
    let first ← value rounds
    blanks
    if ← Scan.accept [','] then
      blanks
      return (name, first) :: (← members rounds)
    else
      Scan.expect ['\x7d']
      pure [(name, first)]

end

/-- The value that a text holds, blanks around it aside; none if the text is
not well-formed. A value and its list of elements each take a round, and
between two of them lies at least one character. -/
def read? (text : String) : Option Json :=
  Scan.whole? (do
    blanks
    let v ← fun cs => (value (2 * cs.length + 2)).run cs
    blanks
    pure v) text

end ApiAvailability.Json
