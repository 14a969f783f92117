/-
A whole run: from the settings of a project and the uses in its source to what
is reported.
-/
import ApiAvailability.Analysis
import ApiAvailability.Config.Load
set_option autoImplicit false

namespace ApiAvailability

/-- What a host knows about a compilation. -/
structure Compilation where
  /-- The document with the settings; an empty one sets nothing. -/
  config : String
  /-- The names of the referenced assemblies. -/
  assemblies : List String
  /-- The version of the system that the manifest asks for. -/
  manifest : Option String

/-- What came of a run. -/
structure Report where
  diagnostics : List Diagnostic
  hasErrors : Bool
  errorCount : Nat
  infoCount : Nat
  deriving DecidableEq

namespace Report

/-- What came to a sink. -/
def ofSink (sink : Sink) : Report where
  diagnostics := sink.held
  hasErrors := sink.hasErrors
  errorCount := sink.errorCount
  infoCount := sink.held.countP (·.severity = .info)

/-- The codes of the diagnostics, as they are written. -/
def codes (r : Report) : List String := r.diagnostics.map (·.code.display)

/-- The messages of the diagnostics. -/
def messages (r : Report) : List String := r.diagnostics.map (·.message)

end Report

namespace Compilation

/-- A compilation for iOS that sets nothing. -/
def iOS (manifest : String) : Compilation := ⟨"", ["mscorlib", "Xamarin.iOS"], some manifest⟩

/-- The settings of the analysis of a compilation. -/
def settings (c : Compilation) : Except ConfigError Settings := do
  (← Config.load c.config).resolve c.assemblies c.manifest

/-- Analyses the uses in a compilation. -/
def run (c : Compilation) (us : List UseSite) : Except ConfigError Report := do
  return .ofSink ((← c.settings).analyzeAll us .empty)

end Compilation

end ApiAvailability
