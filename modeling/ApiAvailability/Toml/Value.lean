/-
TOML values.

A table is a list of pairs in the order in which the keys were defined; the
reader sees to it that no key comes twice. Of numbers other than whole ones and
of dates and times only the text is kept, since no setting takes one: that they
are well-formed is all that matters.
-/
set_option autoImplicit false

namespace ApiAvailability.Toml

/-- A TOML value. -/
inductive Value where
  | str (s : String)
  | bool (b : Bool)
  | int (n : Int)
  /-- A number with a fraction or an exponent, an infinity or no number. -/
  | float (lexeme : String)
  /-- A date, a time or both, with or without an offset. -/
  | dateTime (lexeme : String)
  | arr (elements : List Value)
  | table (entries : List (String × Value))

/-- How many arrays and tables may be written inside each other. -/
def maxNesting : Nat := 79

/-- How many parts a dotted key may have. -/
def maxKeyParts : Nat := 79

end ApiAvailability.Toml
