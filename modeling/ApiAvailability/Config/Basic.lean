/-
The settings of a project, as they are written.

There are two sections. Everything in them may be left out, and the texts are
kept as they were written: whether they mean anything is decided later, by
`Config.validate` and `Config.resolve`.
-/
import ApiAvailability.SlotSet
set_option autoImplicit false

namespace ApiAvailability

/-- How a compilation is analysed. -/
structure AnalysisSection where
  /-- The platform, instead of that of the referenced assemblies. -/
  platform : Option String
  /-- The deployment target, instead of that of the manifest. -/
  minimumOSVersion : Option String
  conflictPolicy : ConflictPolicy
  deriving DecidableEq

/-- Which rules are treated in a way of their own, each by its code or name. -/
structure RulesSection where
  /-- The rules that are not reported. -/
  allow : List String
  /-- The rules that are reported as errors. -/
  deny : List String
  deriving DecidableEq

/-- The settings of a project. -/
structure Config where
  analysis : AnalysisSection
  rules : RulesSection
  deriving DecidableEq

/-- A section in which nothing is set. -/
def AnalysisSection.standard : AnalysisSection := ⟨none, none, .standard⟩

/-- A section that names no rules. -/
def RulesSection.standard : RulesSection := ⟨[], []⟩

/-- The settings where nothing is set. -/
def Config.standard : Config := ⟨.standard, .standard⟩

/-! ## Names -/

/-- The names of the settings of an analysis, in their order. -/
def AnalysisSection.fieldNames : List String :=
  ["platform", "minimum_os_version", "conflict_policy"]

/-- The names of the settings of rules, in their order. -/
def RulesSection.fieldNames : List String := ["allow", "deny"]

/-- The names of the sections, in their order. -/
def Config.fieldNames : List String := ["analysis", "rules"]

/-! ## As JSON -/

/-- The section as a JSON value. -/
def AnalysisSection.toJson (s : AnalysisSection) : Json :=
  .obj [("platform", Json.orNull .str s.platform),
    ("minimum_os_version", Json.orNull .str s.minimumOSVersion),
    ("conflict_policy", s.conflictPolicy.toJson)]

/-- Reads a section; it admits no other names than its own. -/
def AnalysisSection.decode : Decoder AnalysisSection :=
  .closedStructure fieldNames fun levels f => do
    let platform ← f.withDefault "platform" none (Decoder.nullable (Decoder.text levels))
    let minimumOSVersion ←
      f.withDefault "minimum_os_version" none (Decoder.nullable (Decoder.text levels))
    let conflictPolicy ← f.withDefault "conflict_policy" .standard (ConflictPolicy.decode levels)
    pure ⟨platform, minimumOSVersion, conflictPolicy⟩

/-- The section as a JSON value. -/
def RulesSection.toJson (s : RulesSection) : Json :=
  .obj [("allow", .arr (s.allow.map .str)), ("deny", .arr (s.deny.map .str))]

/-- Reads a section; it admits no other names than its own. -/
def RulesSection.decode : Decoder RulesSection :=
  .closedStructure fieldNames fun levels f => do
    let allow ← f.withDefault "allow" [] (Decoder.list .text levels)
    let deny ← f.withDefault "deny" [] (Decoder.list .text levels)
    pure ⟨allow, deny⟩

/-- The settings as a JSON value. -/
def Config.toJson (c : Config) : Json :=
  .obj [("analysis", c.analysis.toJson), ("rules", c.rules.toJson)]

/-- Reads settings; they admit no other sections than the two. -/
def Config.decode : Decoder Config :=
  .closedStructure fieldNames fun levels f => do
    let analysis ← f.withDefault "analysis" .standard (AnalysisSection.decode levels)
    let rules ← f.withDefault "rules" .standard (RulesSection.decode levels)
    pure ⟨analysis, rules⟩

end ApiAvailability
