/-
The rules under which diagnostics about availability are reported.

There are three. Each has a code and a short name, and the settings may use
either; a text that is a code is looked up as a code, and every other text as a
name, so no text can mean two rules.
-/
import ApiAvailability.Diagnostic.Code
import ApiAvailability.Diagnostic.Severity
set_option autoImplicit false

namespace ApiAvailability

/-- What is to be known about a rule. -/
structure Rule where
  code : Code
  name : String
  title : String
  description : Option String
  defaultSeverity : Severity
  deriving DecidableEq

namespace Rule

/-- Advice on how to use an API. -/
def advice : Rule where
  code := ⟨.apple, 1001⟩
  name := "advice"
  title := "Notifies you with advice on how to use Apple APIs"
  description := none
  defaultSeverity := .info

/-- The API is newer than the deployment target. -/
def introducedLater : Rule where
  code := ⟨.apple, 1002⟩
  name := "introduced-later"
  title := "Notifies you if you are using newer Apple APIs when targeting an older OS version"
  description := some ("This rule is comparing the versions of the API's introduced attribute and " ++
    "the minimum deployment target defined in the Info.plist.")
  defaultSeverity := .info

/-- The API is deprecated, obsoleted or unavailable. -/
def deprecated : Rule where
  code := ⟨.apple, 1003⟩
  name := "deprecated"
  title := "Notifies you when using a deprecated, obsolete or unavailable Apple API"
  description := none
  defaultSeverity := .info

/-- The rules in the order of their codes. -/
def all : List Rule := [advice, introducedLater, deprecated]

/-- The rule that a text means, by its code or by its name. -/
def lookup? (ident : String) : Option Rule :=
  match Code.parse? ident with
  | some code => all.find? (·.code = code)
  | none => all.find? (·.name = ident)

/-- Where the documents of the rules are. -/
def documents : String := "https://github.com/xamarin/CodeAnalysis/blob/master/docs"

/-- The document of the rule. -/
def helpLink (r : Rule) : String := documents ++ "/" ++ r.code.display ++ ".md"

/-- The rule as a JSON value. -/
def toJson (r : Rule) : Json :=
  .obj [("code", r.code.toJson), ("name", .str r.name), ("title", .str r.title),
    ("description", Json.orNull .str r.description),
    ("default_severity", r.defaultSeverity.toJson)]

end Rule

/-- A kind of advisory. Each is reported under a rule of its own. -/
inductive AdvisoryKind where
  | advice
  | introducedLater
  | deprecatedOrObsoleted
  deriving DecidableEq

namespace AdvisoryKind

/-- The rule under which the kind is reported. -/
def rule : AdvisoryKind → Rule
  | advice => .advice
  | introducedLater => .introducedLater
  | deprecatedOrObsoleted => .deprecated

/-- The code under which the kind is reported. -/
def code (k : AdvisoryKind) : Code := k.rule.code

/-- The kind as text, which is the name of its rule. -/
def display (k : AdvisoryKind) : String := k.rule.name

/-- The name of the kind in JSON. -/
def jsonName : AdvisoryKind → String
  | advice => "advice"
  | introducedLater => "introduced-later"
  | deprecatedOrObsoleted => "deprecated-or-obsoleted"

/-- The kind with this name in JSON. -/
def ofJsonName? : String → Option AdvisoryKind
  | "advice" => some advice
  | "introduced-later" => some introducedLater
  | "deprecated-or-obsoleted" => some deprecatedOrObsoleted
  | _ => none

@[simp] theorem ofJsonName?_jsonName (k : AdvisoryKind) : ofJsonName? k.jsonName = some k := by
  cases k <;> rfl

/-- The kind as a JSON value. -/
def toJson (k : AdvisoryKind) : Json := .str k.jsonName

/-- Reads a kind. -/
def decode : Decoder AdvisoryKind := .choice ofJsonName?

end AdvisoryKind

end ApiAvailability
