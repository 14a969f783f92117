/-
Diagnostics: what is reported about a use of an API, and where.
-/
import ApiAvailability.Diagnostic.Rule
set_option autoImplicit false

namespace ApiAvailability

/-- A place in a source file. -/
structure Location where
  path : String
  line : UInt32
  column : UInt32
  deriving DecidableEq

namespace Location

/-- The place as text. -/
def display (l : Location) : String :=
  l.path ++ ":" ++ Text.decimal l.line.toNat ++ ":" ++ Text.decimal l.column.toNat

/-- The place as a JSON value. -/
def toJson (l : Location) : Json :=
  .obj [("path", .str l.path), ("line", .int l.line.toNat), ("column", .int l.column.toNat)]

/-- Reads a place. -/
def decode : Decoder Location :=
  .structured ["path", "line", "column"] fun levels f => do
    let path ← f.required "path" (Decoder.text levels)
    let line ← f.required "line" (Decoder.uint32 levels)
    let column ← f.required "column" (Decoder.uint32 levels)
    pure ⟨path, line, column⟩

end Location

/-- A diagnostic. -/
structure Diagnostic where
  severity : Severity
  code : Code
  message : String
  location : Option Location
  notes : List String
  help : List String
  deriving DecidableEq

namespace Diagnostic

/-! ## Making diagnostics -/

/-- A diagnostic without a place, notes and help. -/
def plain (severity : Severity) (code : Code) (message : String) : Diagnostic :=
  ⟨severity, code, message, none, [], []⟩

/-- A diagnostic under the rule of a kind of advisory, with the severity of the
rule, and its document as help. -/
def advisory (kind : AdvisoryKind) (message : String) : Diagnostic :=
  { plain kind.rule.defaultSeverity kind.rule.code message with
    help := ["see " ++ kind.rule.helpLink] }

/-- The diagnostic with one more note. -/
def addNote (d : Diagnostic) (note : String) : Diagnostic := { d with notes := d.notes ++ [note] }

/-- The diagnostic with one more help. -/
def addHelp (d : Diagnostic) (help : String) : Diagnostic := { d with help := d.help ++ [help] }

/-! ## As JSON -/

/-- The diagnostic as a JSON value. -/
def toJson (d : Diagnostic) : Json :=
  .obj [("severity", d.severity.toJson), ("code", d.code.toJson), ("message", .str d.message),
    ("location", Json.orNull Location.toJson d.location), ("notes", .arr (d.notes.map .str)),
    ("help", .arr (d.help.map .str))]

/-- Reads a diagnostic. Only by name can the place be left out. -/
def decode : Decoder Diagnostic :=
  .structured ["severity", "code", "message", "location", "notes", "help"] fun levels f => do
    let severity ← f.required "severity" (Severity.decode levels)
    let code ← f.required "code" (Code.decode levels)
    let message ← f.required "message" (Decoder.text levels)
    let location ← f.omissible "location" none (Decoder.nullable (Location.decode levels))
    let notes ← f.required "notes" (Decoder.list .text levels)
    let help ← f.required "help" (Decoder.list .text levels)
    pure ⟨severity, code, message, location, notes, help⟩

end Diagnostic

end ApiAvailability
