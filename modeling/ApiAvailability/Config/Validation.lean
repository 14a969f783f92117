/-
Whether settings make sense on their own.

They are gone through in a fixed order, platform, version, allowed rules and
denied rules, and the first fault is the one that is told. A rule may be named
twice in one list, by the same or by another spelling, but not in both.
-/
import ApiAvailability.Config.Basic
import ApiAvailability.Deployment
import ApiAvailability.Diagnostic.Rule
set_option autoImplicit false

namespace ApiAvailability

/-- Why settings cannot be used. -/
inductive ConfigError where
  /-- Where they should be, something is that cannot be read as a text. -/
  | unreadable
  /-- They are not well-formed, or a setting is of the wrong kind. -/
  | malformed
  | unknownPlatform (text : String)
  | unknownRule (ident : String)
  | invalidVersion (text : String)
  | conflictingRule (code : Code)
  deriving DecidableEq

/-- The wording of the error. -/
def ConfigError.message : ConfigError → String
  | unreadable => "failed to read configuration"
  | malformed => "failed to parse configuration"
  | unknownPlatform text => "unknown platform '" ++ text ++ "'"
  | unknownRule ident => "unknown rule '" ++ ident ++ "'"
  | invalidVersion text => "validation error: analysis.minimum_os_version '" ++ text ++
      "' is not a major.minor[.patch] version"
  | conflictingRule code => "validation error: rule " ++ code.display ++ " is both allowed and denied"

namespace Config

/-! ## Single settings -/

/-- The platform that a setting names. -/
def platformNamed (text : String) : Except ConfigError Platform :=
  (Platform.parse text).mapError fun _ => .unknownPlatform text

/-- The version that a setting names. -/
def versionNamed (text : String) : Except ConfigError Deployment :=
  (Deployment.parse text).mapError fun _ => .invalidVersion text

/-- The code of the rule that a setting names. -/
def codeNamed (ident : String) : Except ConfigError Code :=
  match Rule.lookup? ident with
  | some rule => .ok rule.code
  | none => .error (.unknownRule ident)

/-- The codes of the rules that a list names. -/
def codesNamed : List String → Except ConfigError (List Code)
  | [] => .ok []
  | ident :: rest => do
    let code ← codeNamed ident
    return code :: (← codesNamed rest)

/-- The value of a setting, if it is set. -/
def optionally {α : Type} (read : String → Except ConfigError α) :
    Option String → Except ConfigError (Option α)
  | some text => (read text).map some
  | none => .ok none

/-! ## All settings -/

/-- Goes through the denied rules until one is unknown or is allowed too. -/
def checkDenied (allowed : List Code) : List String → Except ConfigError Unit
  | [] => .ok ()
  | ident :: rest => do
    let code ← codeNamed ident
    if code ∈ allowed then .error (.conflictingRule code) else checkDenied allowed rest

/-- Accepts settings that make sense. -/
def validate (c : Config) : Except ConfigError Unit := do
  let _ ← optionally platformNamed c.analysis.platform
  let _ ← optionally versionNamed c.analysis.minimumOSVersion
  let allowed ← codesNamed c.rules.allow
  checkDenied allowed c.rules.deny

end Config

end ApiAvailability
