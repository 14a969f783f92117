/-
How a property is accessed, and through which of its accessors.
-/
import ApiAvailability.Json.Decoder
set_option autoImplicit false

namespace ApiAvailability

/-- An accessor of a property. -/
inductive Accessor where
  | getter
  | setter
  deriving DecidableEq

/-- The name of the accessor in JSON. -/
def Accessor.name : Accessor → String
  | getter => "getter"
  | setter => "setter"

/-- The accessor as a JSON value. -/
def Accessor.toJson (a : Accessor) : Json := .str a.name

/-- How the source uses a property. -/
inductive Access where
  | read
  | assignmentTarget
  | incrementOrDecrement
  | compoundAssignment
  deriving DecidableEq

namespace Access

/-- The accessors that the use goes through, in the order in which they are
consulted. -/
def accessors : Access → List Accessor
  | read => [.getter]
  | assignmentTarget => [.setter]
  | incrementOrDecrement => [.getter, .setter]
  | compoundAssignment => [.getter, .setter]

/-- The name of the access in JSON. -/
def name : Access → String
  | read => "read"
  | assignmentTarget => "assignment_target"
  | incrementOrDecrement => "increment_or_decrement"
  | compoundAssignment => "compound_assignment"

/-- The access with this name. -/
def ofName? : String → Option Access
  | "read" => some read
  | "assignment_target" => some assignmentTarget
  | "increment_or_decrement" => some incrementOrDecrement
  | "compound_assignment" => some compoundAssignment
  | _ => none

@[simp] theorem ofName?_name (a : Access) : ofName? a.name = some a := by
  cases a <;> rfl

/-- The access as a JSON value. -/
def toJson (a : Access) : Json := .str a.name

/-- Reads an access. -/
def decode : Decoder Access := .choice ofName?

end Access

end ApiAvailability
