/-
JSON values.

The members of an object are a list of pairs: their order is the order of the
text, and a name may come twice, because whether a repeated name is allowed is
for the reader of the value to say. Whole numbers are kept apart from all other
numbers, since every number this library reads is a whole one and must be
written as such: `8.0`, `1E2` and `-0` are other numbers.
-/
set_option autoImplicit false

namespace ApiAvailability

/-- A JSON value. -/
inductive Json where
  | null
  | bool (b : Bool)
  /-- A whole number, written without fraction and exponent; minus zero is not
  one. -/
  | int (n : Int)
  /-- Any other number, as it is written. -/
  | real (lexeme : String)
  | str (s : String)
  /-- A well-formed string that names half of a surrogate pair, and so no text;
  or an object in which such a string is the name of a member. -/
  | unpaired
  | arr (elements : List Json)
  | obj (members : List (String × Json))

namespace Json

/-- A value that may be missing, as null where it is. -/
def orNull {α : Type} (toJson : α → Json) : Option α → Json
  | some a => toJson a
  | none => null

/-! ## Nesting -/

mutual

/-- How many arrays and objects are nested in each other at the deepest place. -/
def depth : Json → Nat
  | arr elements => depthOfElements elements + 1
  | obj members => depthOfMembers members + 1
  | _ => 0

/-- The depth of the deepest element. -/
def depthOfElements : List Json → Nat
  | [] => 0
  | j :: js => max j.depth (depthOfElements js)

/-- The depth of the deepest member. -/
def depthOfMembers : List (String × Json) → Nat
  | [] => 0
  | (_, j) :: ms => max j.depth (depthOfMembers ms)

end

/-! ## Repeated names -/

/-- A member unless its name comes again later. -/
def addFirst (m : String × Json) (later : List (String × Json)) : List (String × Json) :=
  if later.any (·.1 == m.1) then later else m :: later

mutual

/-- The value in which, of the members of one object with the same name, only
the last is left. -/
def lastNamed : Json → Json
  | arr elements => arr (lastNamedElements elements)
  | obj members => obj (lastNamedMembers members)
  | j => j

/-- Leaves the last of each name in every element. -/
def lastNamedElements : List Json → List Json
  | [] => []
  | j :: js => j.lastNamed :: lastNamedElements js

/-- Leaves the last of each name among the members, and inside them. -/
def lastNamedMembers : List (String × Json) → List (String × Json)
  | [] => []
  | (name, j) :: ms => addFirst (name, j.lastNamed) (lastNamedMembers ms)

end

end Json

end ApiAvailability
