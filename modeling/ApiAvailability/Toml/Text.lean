/-
The characters, blanks, comments and strings of a TOML document.

A line ends with a line feed, before which a carriage return may stand; alone,
a carriage return may stand nowhere. No other control character than the tab is
allowed, not even in comments.
-/
import ApiAvailability.Text.Decimal
import ApiAvailability.Text.Scan
set_option autoImplicit false

namespace ApiAvailability.Toml

/-! ## Blanks and comments -/

/-- Whether this is a blank within a line. -/
def isBlank (c : Char) : Bool := c = ' ' || c = '\t'

/-- Whether the character may stand in a comment. -/
def isPlain (c : Char) : Bool := c = '\t' || (0x20 ≤ c.toNat && c.toNat ≠ 0x7F)

/-- Passes over blanks. -/
def blanks : Scan Unit := do
  let _ ← Scan.takeWhile isBlank

/-- Passes over the end of a line. -/
def newline : Scan Unit := do
  let _ ← Scan.accept ['\r']
  Scan.expect ['\n']

/-- Passes over a comment if one comes next, up to the end of its line. -/
def comment : Scan Unit := do
  if ← Scan.accept ['#'] then
    let _ ← Scan.takeWhile isPlain

/-- Passes over what may follow a definition: blanks, a comment, and the end of
the line or of the document. -/
def lineEnd : Scan Unit := do
  blanks
  comment
  if ← Scan.atEnd then pure () else newline

/-- Passes over blanks, comments and ends of lines. -/
def gapRounds : Nat → Scan Unit
  | 0 => failure
  | rounds + 1 => do
    blanks
    match ← Scan.peek with
    | some '#' => comment; newline; gapRounds rounds
    | some '\n' => newline; gapRounds rounds
    | some '\r' => newline; gapRounds rounds
    | _ => pure ()

/-- Passes over blanks, comments and ends of lines. -/
def gap : Scan Unit := Scan.bounded gapRounds

/-! ## Strings -/

/-- The character with the code point that the next `n` hexadecimal digits
name. Halves of surrogate pairs are no characters. -/
def codePoint (n : Nat) : Scan (List Char) := do
  match Text.hexValue? (← Scan.take n) with
  | some v => if v.isValidChar then pure [Char.ofNat v] else failure
  | none => failure

/-- What an escape stands for, whose backslash has been read. -/
def escape : Scan (List Char) := do
  match ← Scan.next with
  | 'b' => pure ['\x08']
  | 't' => pure ['\t']
  | 'n' => pure ['\n']
  | 'f' => pure ['\x0c']
  | 'r' => pure ['\r']
  | '"' => pure ['"']
  | '\\' => pure ['\\']
  | 'u' => codePoint 4
  | 'U' => codePoint 8
  | _ => failure

/-- The end of a string on one line. -/
def closing (quote : Char) : Scan (Option (List Char)) := do
  pure (if ← Scan.accept [quote] then some [] else none)

/-- A part of a string in double quotes. -/
def basicPiece : Scan (List Char) := do
  let c ← Scan.next
  if c = '\\' then escape else if isPlain c then pure [c] else failure

/-- A part of a string in single quotes, in which nothing is escaped. -/
def literalPiece : Scan (List Char) := do
  let c ← Scan.next
  if isPlain c then pure [c] else failure

/-- A string on one line, whose opening quote has been read. -/
def lineString (quote : Char) (piece : Scan (List Char)) : Scan (List Char) :=
  Scan.bounded (Scan.piecesUntil (closing quote) piece)

/-- The end of a string over several lines. One or two quotes right before the
three that close it belong to it. -/
def longClosing (quote : Char) : Scan (Option (List Char)) := fun cs =>
  let quotes := (cs.takeWhile (· = quote)).length
  if quotes < 3 then some (none, cs)
  else
    let inside := min (quotes - 3) 2
    some (some (List.replicate inside quote), cs.drop (inside + 3))

/-- A part of a string over several lines: the end of a line, or what `piece`
reads. However a line ends, the string has a line feed there. -/
def longPiece (piece : Scan (List Char)) : Scan (List Char) := do
  match ← Scan.peek with
  | some '\n' => newline; pure ['\n']
  | some '\r' => newline; pure ['\n']
  | _ => piece

/-- A part of a string over several lines in double quotes. A backslash at the
end of a line stands for nothing, together with all blanks and ends of lines
that follow it. -/
def longBasicPiece : Scan (List Char) := do
  let c ← Scan.next
  if c = '\\' then
    match ← Scan.peek with
    | some ' ' => continued
    | some '\t' => continued
    | some '\n' => continued
    | some '\r' => continued
    | _ => escape
  else if isPlain c then pure [c] else failure
where
  /-- What follows a backslash at the end of a line. -/
  continued : Scan (List Char) := do
    blanks
    newline
    Scan.bounded skipLines
    pure []
  /-- Passes over blanks and ends of lines. A carriage return that ends no line
  is left. -/
  skipLines : Nat → Scan Unit
    | 0 => failure
    | rounds + 1 => do
      blanks
      match ← Scan.optional? newline with
      | some _ => skipLines rounds
      | none => pure ()

/-- A string over several lines, whose three opening quotes have been read. An
end of line right after them does not count. -/
def longString (quote : Char) (piece : Scan (List Char)) : Scan (List Char) := do
  let _ ← Scan.optional? newline
  Scan.bounded (Scan.piecesUntil (longClosing quote) (longPiece piece))

/-- A string on one line in either quotes. -/
def shortText : Scan String := do
  if ← Scan.accept ['"'] then return String.ofList (← lineString '"' basicPiece)
  Scan.expect ['\'']
  return String.ofList (← lineString '\'' literalPiece)

/-- A string of any of the four forms. -/
def text : Scan String := do
  if ← Scan.accept ['"', '"', '"'] then return String.ofList (← longString '"' longBasicPiece)
  if ← Scan.accept ['\'', '\'', '\''] then return String.ofList (← longString '\'' literalPiece)
  shortText

/-! ## Keys -/

/-- Whether the character may stand in a key without quotes. -/
def isBare (c : Char) : Bool := c.isAlphanum || c = '_' || c = '-'

/-- One part of a key. -/
def keyPart : Scan String := do
  match ← Scan.peek with
  | some '"' => shortText
  | some '\'' => shortText
  | _ => return String.ofList (← Scan.takeSome isBare)

/-- The parts of a key, with blanks around each. -/
def keyParts : Nat → Scan (List String)
  | 0 => failure
  | rounds + 1 => do
    blanks
    let first ← keyPart
    blanks
    if ← Scan.accept ['.'] then return first :: (← keyParts rounds) else pure [first]

/-- A key. It has a limited number of parts. -/
def key (maxParts : Nat) : Scan (List String) := do
  let parts ← Scan.bounded keyParts
  if parts.length ≤ maxParts then pure parts else failure

end ApiAvailability.Toml
