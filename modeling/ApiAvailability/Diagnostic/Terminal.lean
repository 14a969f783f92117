/-
Diagnostics as text for people.

The first line has the severity, the code and the message; the place, the notes
and the help follow on lines of their own, indented. In colour, only the
severity with the code is set off, in a colour that the severity chooses.
-/
import ApiAvailability.Diagnostic.Basic
set_option autoImplicit false

namespace ApiAvailability

/-- The number by which a terminal knows the colour of a severity. -/
def Severity.colour : Severity → String
  | error => "31"
  | warning => "33"
  | info => "36"
  | hidden => "2"

namespace Diagnostic

/-- The severity and the code. -/
def tag (d : Diagnostic) : String := d.severity.name ++ "[" ++ d.code.display ++ "]"

/-- The severity and the code, in colour if that is asked for. -/
def header (inColour : Bool) (d : Diagnostic) : String :=
  if inColour then "\x1b[1;" ++ d.severity.colour ++ "m" ++ d.tag ++ "\x1b[0m" else d.tag

/-- The lines of a diagnostic. -/
def terminalLines (inColour : Bool) (d : Diagnostic) : List String :=
  [d.header inColour ++ ": " ++ d.message] ++
    (d.location.map fun l => "  --> " ++ l.display).toList ++
    d.notes.map ("   = note: " ++ ·) ++ d.help.map ("   = help: " ++ ·)

/-- The text of a diagnostic, each line with its end. -/
def terminalText (inColour : Bool) (d : Diagnostic) : String :=
  String.join ((d.terminalLines inColour).map (· ++ "\n"))

/-- The texts of diagnostics, one after the other. -/
def allTerminalText (inColour : Bool) (ds : List Diagnostic) : String :=
  String.join (ds.map (terminalText inColour))

end Diagnostic

end ApiAvailability
