/-
How severe a diagnostic is.
-/
import ApiAvailability.Json.Decoder
set_option autoImplicit false

namespace ApiAvailability

/-- A severity, from the least to the most severe. -/
inductive Severity where
  /-- Reported to tools, and not shown. -/
  | hidden
  | info
  | warning
  | error
  deriving DecidableEq

namespace Severity

/-- The place in the order. -/
def rank : Severity → Nat
  | hidden => 0
  | info => 1
  | warning => 2
  | error => 3

/-- The order of two severities. -/
def compare (s t : Severity) : Ordering := Ord.compare s.rank t.rank

/-- Whether this fails a build. -/
def isError (s : Severity) : Bool := s = error

/-- The name of the severity, in output and in JSON. -/
def name : Severity → String
  | hidden => "hidden"
  | info => "info"
  | warning => "warning"
  | error => "error"

/-- The severity with this name. -/
def ofName? : String → Option Severity
  | "hidden" => some hidden
  | "info" => some info
  | "warning" => some warning
  | "error" => some error
  | _ => none

@[simp] theorem ofName?_name (s : Severity) : ofName? s.name = some s := by
  cases s <;> rfl

/-- The severity as a JSON value. -/
def toJson (s : Severity) : Json := .str s.name

/-- Reads a severity. -/
def decode : Decoder Severity := .choice ofName?

end Severity

end ApiAvailability
