/-
What an analysis has to know about a compilation.

The settings of the project come before what the host found: the platform of
the referenced assemblies and the version of the manifest count only where the
settings are silent. A version of the manifest that is none is dropped, and
then no API is ever too new.
-/
import ApiAvailability.Config.Validation
set_option autoImplicit false

namespace ApiAvailability

/-- The settings of an analysis. -/
structure Settings where
  platform : Platform
  minimum : Option Deployment
  policy : ConflictPolicy
  /-- The codes that are not reported. -/
  allow : List Code
  /-- The codes that are reported as errors. -/
  deny : List Code
  deriving DecidableEq

/-- The version that a manifest names, if it names one. -/
def Deployment.ofManifest? (text : String) : Option Deployment :=
  (Deployment.parse text).toOption

/-- The settings that follow from the settings of a project, the names of the
referenced assemblies and the version of the manifest. -/
def Config.resolve (c : Config) (assemblies : List String) (manifest : Option String) :
    Except ConfigError Settings := do
  let platform ← optionally platformNamed c.analysis.platform
  let minimum ← optionally versionNamed c.analysis.minimumOSVersion
  let allow ← codesNamed c.rules.allow
  let deny ← codesNamed c.rules.deny
  return {
    platform := platform.getD (Platform.ofAssemblies assemblies)
    minimum := minimum.or (manifest.bind Deployment.ofManifest?)
    policy := c.analysis.conflictPolicy
    allow := allow
    deny := deny }

end ApiAvailability
