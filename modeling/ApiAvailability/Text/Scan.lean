/-
Readers of text, over what remains of it.

A reader takes the characters that are left and gives a value with the
characters it did not use, or nothing when the text is not of its form. It
never looks behind, so two readers in a row are one reader, and "the text is of
this form" means that the reader succeeds and leaves nothing over.

The loops take a bound on their rounds. Each round uses up at least one
character of any text that goes on to be accepted, so the number of characters
left, plus one for the round that sees the end, is always enough.
-/
set_option autoImplicit false

namespace ApiAvailability

/-- A reader of an `α` from the characters that are left. -/
abbrev Scan (α : Type) := StateT (List Char) Option α

namespace Scan

variable {α : Type}

/-! ## Single characters -/

/-- The value of a reader that uses up the whole text. -/
def whole? (p : Scan α) (s : String) : Option α :=
  match p.run s.toList with
  | some (a, []) => some a
  | _ => none

/-- The next character, left in place. -/
def peek : Scan (Option Char) := fun cs => some (cs.head?, cs)

/-- The next character. -/
def next : Scan Char
  | [] => none
  | c :: cs => some (c, cs)

/-- The next `n` characters. -/
def take (n : Nat) : Scan (List Char) := fun cs =>
  if n ≤ cs.length then some (cs.take n, cs.drop n) else none

/-- The characters up to the first one that is not of the class. -/
def takeWhile (p : Char → Bool) : Scan (List Char) := fun cs =>
  some (cs.takeWhile p, cs.dropWhile p)

/-- As `takeWhile`, and at least one character. -/
def takeSome (p : Char → Bool) : Scan (List Char) := do
  let cs ← takeWhile p
  if cs.isEmpty then failure else pure cs

/-- Passes over the given characters, in this order. -/
def expect (cs : List Char) : Scan Unit := fun rest =>
  if cs.isPrefixOf rest then some ((), rest.drop cs.length) else none

/-- Passes over the given characters if they come next, and says whether they
did. -/
def accept (cs : List Char) : Scan Bool := fun rest =>
  if cs.isPrefixOf rest then some (true, rest.drop cs.length) else some (false, rest)

/-- Whether nothing is left. -/
def atEnd : Scan Bool := fun cs => some (cs.isEmpty, cs)

/-- A reader's value, or nothing, and no character used, where it fails. -/
def optional? (p : Scan α) : Scan (Option α) := fun cs =>
  match p.run cs with
  | some (a, rest) => some (some a, rest)
  | none => some (none, cs)

/-- The characters that a reader uses up. -/
def usedBy (p : Scan Unit) : Scan String := fun cs =>
  match p.run cs with
  | some (_, rest) => some (String.ofList (cs.take (cs.length - rest.length)), rest)
  | none => none

/-! ## Loops -/

/-- Gives `p` as many rounds as the text that is left can need. -/
def bounded (p : Nat → Scan α) : Scan α := fun cs => (p (cs.length + 1)).run cs

/-- Reads pieces, and puts them together, until the closing comes; the closing
may add a last piece. -/
def piecesUntil (closing : Scan (Option (List α))) (piece : Scan (List α)) : Nat → Scan (List α)
  | 0 => failure
  | rounds + 1 => do
    match ← closing with
    | some last => pure last
    | none =>
      let first ← piece
      let others ← piecesUntil closing piece rounds
      pure (first ++ others)

end Scan

end ApiAvailability
