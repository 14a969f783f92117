/-
JSON values as compact text: no blanks, members in their own order.

In a string the quote, the backslash and the control characters below U+0020
are escaped, the five with a short escape by it and the others by four
hexadecimal digits in lower case. Every other character, U+007F and all beyond
ASCII included, stands for itself, and a slash is not escaped. So a text of
this form holds no line break, which is what lets one line carry one value.
-/
import ApiAvailability.Json.Basic
import ApiAvailability.Text.Decimal
set_option autoImplicit false

namespace ApiAvailability.Json

/-! ## Strings -/

/-- A character as it is written inside a string. -/
def escapeChar (c : Char) : List Char :=
  if c = '"' then ['\\', '"']
  else if c = '\\' then ['\\', '\\']
  else if c = '\x08' then ['\\', 'b']
  else if c = '\x0c' then ['\\', 'f']
  else if c = '\n' then ['\\', 'n']
  else if c = '\r' then ['\\', 'r']
  else if c = '\t' then ['\\', 't']
  else if c.toNat < 0x20 then
    ['\\', 'u', '0', '0', Text.hexDigit (c.toNat / 16), Text.hexDigit (c.toNat % 16)]
  else [c]

/-- The characters of a string between its quotes. -/
def escape (cs : List Char) : List Char :=
  cs.flatMap escapeChar

/-- A string with its quotes. -/
def quoted (s : String) : List Char :=
  '"' :: (escape s.toList ++ ['"'])

/-! ## Values -/

mutual

/-- The characters of a value. A string that names no text is written as the
lone half of a pair. -/
def chars : Json → List Char
  | null => "null".toList
  | bool true => "true".toList
  | bool false => "false".toList
  | int n => (Text.signedDecimal n).toList
  | real lexeme => lexeme.toList
  | str s => quoted s
  | unpaired => "\"\\ud800\"".toList
  | arr elements => '[' :: charsOfElements elements
  | obj members => '\x7b' :: charsOfMembers members

/-- The elements, each but the last with the comma after it, and the closing
bracket. -/
def charsOfElements : List Json → List Char
  | [] => [']']
  | [j] => j.chars ++ [']']
  | j :: js => j.chars ++ ',' :: charsOfElements js

/-- The members, each but the last with the comma after it, and the closing
brace. -/
def charsOfMembers : List (String × Json) → List Char
  | [] => ['\x7d']
  | [(name, j)] => quoted name ++ ':' :: (j.chars ++ ['\x7d'])
  | (name, j) :: ms => quoted name ++ ':' :: (j.chars ++ ',' :: charsOfMembers ms)

end

/-- The text of a value. -/
def render (j : Json) : String :=
  String.ofList j.chars

end ApiAvailability.Json
