/-
The platforms that an API can be annotated for.

There are four, and a fifth value says that none applies: a compilation without
a platform is not checked, and no fact is ever stated for it. A platform is
named in four ways, each with its own rule: by the byte that attributes carry,
by the name that a person writes in the settings, by the assembly that binds
it, and by the name that is shown.
-/
import ApiAvailability.Json.Decoder
import ApiAvailability.Text.Blank
import ApiAvailability.Text.Decimal
set_option autoImplicit false

namespace ApiAvailability

/-- A platform, or none. -/
inductive Platform where
  | none
  | macOS
  | iOS
  | watchOS
  | tvOS
  deriving DecidableEq

/-- Why something names no platform. -/
inductive PlatformError where
  | unknownByte (value : UInt8)
  | unknownName (text : String)

/-- The wording of the error. -/
def PlatformError.message : PlatformError → String
  | unknownByte value => "unknown platform identifier " ++ Text.decimal value.toNat
  | unknownName text => "unknown platform name '" ++ text ++ "'"

namespace Platform

/-- The four platforms, in the order in which their facts are listed. -/
def concrete : List Platform := [iOS, macOS, watchOS, tvOS]

/-- Whether this is a platform, and not the absence of one. -/
def isConcrete (p : Platform) : Bool := p ≠ none

/-- The name that messages show. -/
def displayName : Platform → String
  | none => "None"
  | macOS => "macOS"
  | iOS => "iOS"
  | watchOS => "watchOS"
  | tvOS => "tvOS"

/-! ## Bytes -/

/-- The byte by which attributes name the platform. -/
def toByte : Platform → UInt8
  | none => 0
  | macOS => 1
  | iOS => 2
  | watchOS => 3
  | tvOS => 4

/-- The platform with this byte, if there is one. -/
def ofByte? (b : UInt8) : Option Platform :=
  if b = 0 then some none
  else if b = 1 then some macOS
  else if b = 2 then some iOS
  else if b = 3 then some watchOS
  else if b = 4 then some tvOS
  else .none

@[simp] theorem ofByte?_toByte (p : Platform) : ofByte? p.toByte = some p := by
  cases p <;> rfl

/-- The platform with this byte, or the error that names the byte. -/
def ofByte (b : UInt8) : Except PlatformError Platform :=
  match ofByte? b with
  | some p => .ok p
  | .none => .error (.unknownByte b)

/-! ## Written names -/

/-- The platform that a name in lower case names. macOS goes by three names. -/
def ofLowerName? : String → Option Platform
  | "none" => some none
  | "macos" => some macOS
  | "macosx" => some macOS
  | "mac" => some macOS
  | "ios" => some iOS
  | "watchos" => some watchOS
  | "tvos" => some tvOS
  | _ => .none

/-- The platform that a written name names, in any ASCII case and with blanks
around it. The error quotes the text as it was given. -/
def parse (text : String) : Except PlatformError Platform :=
  match ofLowerName? (Text.asciiLower (Text.trim text)) with
  | some p => .ok p
  | .none => .error (.unknownName text)

/-! ## Assemblies -/

/-- The platform that an assembly binds, if it is a binding assembly. -/
def ofAssembly? : String → Option Platform
  | "Xamarin.iOS" => some iOS
  | "Xamarin.WatchOS" => some watchOS
  | "Xamarin.TVOS" => some tvOS
  | "Xamarin.Mac" => some macOS
  | _ => .none

/-- The platform of the first binding assembly among those that a compilation
references, and none if it references no such assembly. -/
def ofAssemblies (assemblies : List String) : Platform :=
  (assemblies.findSome? ofAssembly?).getD none

/-! ## As JSON -/

/-- The name of the platform in JSON. -/
def jsonName : Platform → String
  | none => "none"
  | macOS => "macos"
  | iOS => "ios"
  | watchOS => "watchos"
  | tvOS => "tvos"

/-- The platform with this name in JSON. -/
def ofJsonName? : String → Option Platform
  | "none" => some none
  | "macos" => some macOS
  | "ios" => some iOS
  | "watchos" => some watchOS
  | "tvos" => some tvOS
  | _ => .none

@[simp] theorem ofJsonName?_jsonName (p : Platform) : ofJsonName? p.jsonName = some p := by
  cases p <;> rfl

/-- The platform as a JSON value. -/
def toJson (p : Platform) : Json := .str p.jsonName

/-- Reads a platform. -/
def decode : Decoder Platform := .choice ofJsonName?

end Platform

end ApiAvailability
