/-
TOML documents.

A document is read line by line into definitions, and these are put together to
one table. Whatever is wrong in it, the document as a whole is refused.
-/
import ApiAvailability.Toml.Number
import ApiAvailability.Toml.Table
import ApiAvailability.Toml.Text
set_option autoImplicit false

namespace ApiAvailability.Toml

/-! ## Values -/

/-- A value that is neither an array nor a table. -/
def scalar : Scan Value := do
  match ← Scan.peek with
  | some '"' => return .str (← text)
  | some '\'' => return .str (← text)
  | some 't' => Scan.expect "true".toList; pure (.bool true)
  | some 'f' => Scan.expect "false".toList; pure (.bool false)
  | _ => number

/-- The elements of an array up to its closing bracket, with a comma after each
but the last, which may have one. -/
def arrayElements (element : Scan Value) : Nat → Scan (List Value)
  | 0 => failure
  | rounds + 1 => do
    gap
    if ← Scan.accept [']'] then return []
    let first ← element
    gap
    if ← Scan.accept [','] then return first :: (← arrayElements element rounds)
    Scan.expect [']']
    return [first]

/-- A key and its value. -/
def pair (value : Scan Value) : Scan (List String × Value) := do
  let k ← key maxKeyParts
  Scan.expect ['=']
  blanks
  return (k, ← value)

/-- The pairs of a table in braces, of which there is at least one, up to the
closing brace. -/
def inlinePairs (value : Scan Value) : Nat → Scan (List (List String × Value))
  | 0 => failure
  | rounds + 1 => do
    let first ← pair value
    blanks
    if ← Scan.accept [','] then return first :: (← inlinePairs value rounds)
    Scan.expect ['\x7d']
    return [first]

/-- A table in braces, whose opening brace has been read. -/
def inlineTable (value : Scan Value) : Scan Value := do
  blanks
  let pairs ← if ← Scan.accept ['\x7d'] then pure [] else Scan.bounded (inlinePairs value)
  match Node.ofPairs? pairs with
  | some table => pure table.toValue
  | none => failure

/-- A value in which arrays and tables are nested no deeper than the given
number. -/
def value : Nat → Scan Value
  | 0 => scalar
  | levels + 1 => do
    if ← Scan.accept ['['] then return .arr (← Scan.bounded (arrayElements (value levels)))
    if ← Scan.accept ['\x7b'] then inlineTable (value levels)
    else scalar

/-! ## Lines -/

/-- A line that defines something. -/
def line : Scan Line := do
  if ← Scan.accept ['[', '['] then
    let k ← key maxKeyParts
    Scan.expect [']', ']']
    lineEnd
    return .doubleHeader k
  if ← Scan.accept ['['] then
    let k ← key maxKeyParts
    Scan.expect [']']
    lineEnd
    return .header k
  let p ← pair (value maxNesting)
  lineEnd
  return .pair p.1 p.2

/-- The lines up to the end of the document. Lines that hold at most a comment
define nothing. -/
def lines : Nat → Scan (List Line)
  | 0 => failure
  | rounds + 1 => do
    blanks
    match ← Scan.peek with
    | none => pure []
    | some '#' => lineEnd; lines rounds
    | some '\n' => newline; lines rounds
    | some '\r' => newline; lines rounds
    | some _ =>
      let first ← line
      return first :: (← lines rounds)

/-- The table that a document defines, if the document is well-formed. A byte
order mark at its start does not count. -/
def read? (document : String) : Option Value :=
  (Scan.whole? (do
    let _ ← Scan.accept ['\ufeff']
    Scan.bounded lines) document).bind Draft.ofLines?

end ApiAvailability.Toml
