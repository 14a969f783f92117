/-
Settings from where a project keeps them.

A project without a file for them has the standard settings. A file is read as
UTF-8; something else in its place, such as a directory, cannot be read.
-/
import ApiAvailability.Config.Document
import ApiAvailability.Config.Validation
set_option autoImplicit false

namespace ApiAvailability

/-- What is found where the settings of a project should be. -/
inductive ConfigSource where
  | absent
  | file (content : ByteArray)
  /-- Something that is there and is no file. -/
  | noFile

namespace Config

/-- The settings that a document gives, if they make sense. -/
def load (document : String) : Except ConfigError Config :=
  match ofDocument? document with
  | some c => do
    validate c
    return c
  | none => .error .malformed

/-- The settings of a project. -/
def loadFrom : ConfigSource → Except ConfigError Config
  | .absent => .ok standard
  | .noFile => .error .unreadable
  | .file content =>
    match String.fromUTF8? content with
    | some document => load document
    | none => .error .unreadable

end Config

end ApiAvailability
