/-
The settings of a project from a TOML document.

A section may be a table, or an array of its settings in their order; in an
array, what goes beyond the last setting is of no account. A name that a table
does not know is refused. The policy is a text, or a table with one key, the
name of the policy, under which there is an empty table or array.
-/
import ApiAvailability.Config.Basic
import ApiAvailability.Toml.Document
set_option autoImplicit false

namespace ApiAvailability.Toml.Value

/-! ## Values of settings -/

/-- A text. -/
def text? : Value → Option String
  | str s => some s
  | _ => none

/-- An array of texts. -/
def texts? : Value → Option (List String)
  | arr elements => elements.mapM text?
  | _ => none

/-- An empty table or array, which stands for nothing more to say. -/
def isVoid : Value → Bool
  | arr [] => true
  | table [] => true
  | _ => false

/-- A policy. -/
def policy? : Value → Option ConflictPolicy
  | str name => ConflictPolicy.ofName? name
  | table [(name, v)] => if v.isVoid then ConflictPolicy.ofName? name else none
  | _ => none

/-! ## Sections -/

/-- The settings that a section gives, by their names. -/
def settings? (names : List String) : Value → Option (List (String × Value))
  | table entries => if entries.all (names.contains ·.1) then some entries else none
  | arr elements => some (names.zip elements)
  | _ => none

end ApiAvailability.Toml.Value

namespace ApiAvailability

/-- The value of a setting: read from what is given, or the fallback. -/
def settingOr {α : Type} (settings : List (String × Toml.Value)) (name : String) (fallback : α)
    (read? : Toml.Value → Option α) : Option α :=
  match settings.lookup name with
  | some v => read? v
  | none => some fallback

/-- The section that a value gives. -/
def AnalysisSection.ofToml? (v : Toml.Value) : Option AnalysisSection := do
  let settings ← v.settings? fieldNames
  let platform ← settingOr settings "platform" none fun v => v.text?.map some
  let minimumOSVersion ← settingOr settings "minimum_os_version" none fun v => v.text?.map some
  let conflictPolicy ← settingOr settings "conflict_policy" .standard Toml.Value.policy?
  pure ⟨platform, minimumOSVersion, conflictPolicy⟩

/-- The section that a value gives. -/
def RulesSection.ofToml? (v : Toml.Value) : Option RulesSection := do
  let settings ← v.settings? fieldNames
  let allow ← settingOr settings "allow" [] Toml.Value.texts?
  let deny ← settingOr settings "deny" [] Toml.Value.texts?
  pure ⟨allow, deny⟩

/-- The settings that a document gives, if it is well-formed. -/
def Config.ofDocument? (document : String) : Option Config := do
  let settings ← (← Toml.read? document).settings? fieldNames
  let analysis ← settingOr settings "analysis" .standard AnalysisSection.ofToml?
  let rules ← settingOr settings "rules" .standard RulesSection.ofToml?
  pure ⟨analysis, rules⟩

end ApiAvailability
