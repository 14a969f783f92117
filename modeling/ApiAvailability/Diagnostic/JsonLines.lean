/-
Diagnostics as text for programs: one JSON value on each line.

The members of each object come in the order of the alphabet. A diagnostic
under one of the rules also says the rule's name and title, which are null for
every other code.
-/
import ApiAvailability.Diagnostic.Basic
import ApiAvailability.Json.Printer
set_option autoImplicit false

namespace ApiAvailability

/-- A place as a value of a line. -/
def Location.toLineJson (l : Location) : Json :=
  .obj [("column", .int l.column.toNat), ("line", .int l.line.toNat), ("path", .str l.path)]

namespace Diagnostic

/-- A diagnostic as the value of a line. -/
def toLineJson (d : Diagnostic) : Json :=
  let rule := Rule.lookup? d.code.display
  .obj [("code", .str d.code.display), ("help", .arr (d.help.map .str)),
    ("location", Json.orNull Location.toLineJson d.location), ("message", .str d.message),
    ("notes", .arr (d.notes.map .str)), ("rule", Json.orNull (fun r => .str r.name) rule),
    ("severity", d.severity.toJson), ("title", Json.orNull (fun r => .str r.title) rule)]

/-- The line of a diagnostic, with its end. -/
def jsonLine (d : Diagnostic) : String := d.toLineJson.render ++ "\n"

/-- The lines of diagnostics. -/
def jsonLines (ds : List Diagnostic) : String := String.join (ds.map jsonLine)

end Diagnostic

end ApiAvailability
