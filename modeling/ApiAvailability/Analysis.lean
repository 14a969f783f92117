/-
The diagnostics of the uses of APIs in a compilation.

Each use is looked at on its own. Its advice is reported first, and at most one
advisory about availability after it. A use by an operation that is of no
interest, and one around which an attribute cannot be read, is passed over with
nothing reported, and the others are not affected.
-/
import ApiAvailability.Advisory
import ApiAvailability.Collection
import ApiAvailability.Diagnostic.Sink
import ApiAvailability.Settings
set_option autoImplicit false

namespace ApiAvailability

namespace Settings

/-! ## One use -/

/-- The diagnostic for a kind of advisory at a place, unless its code is
allowed. One whose code is denied is an error. -/
def report (s : Settings) (place : Option Location) (kind : AdvisoryKind) (message : String) :
    Option Diagnostic :=
  if kind.code ∈ s.allow then none
  else
    let plain := Diagnostic.advisory kind message
    some { plain with
      severity := if kind.code ∈ s.deny then .error else plain.severity
      location := place }

/-- The diagnostics for the advice around a use. Advice speaks for itself, and
the symbol is not named. -/
def adviceDiagnostics (s : Settings) (u : UseSite) (advice : List String) : List Diagnostic :=
  advice.filterMap (s.report u.location .advice)

/-- The diagnostic for what there is to say about the availability. -/
def availabilityDiagnostic (s : Settings) (u : UseSite) (record : Option Record) :
    Option Diagnostic :=
  (Advisory.advise? record s.minimum s.platform).bind fun a =>
    s.report u.location a.kind (a.textFor u.symbol.name)

/-- The diagnostics for a use. -/
def diagnosticsFor (s : Settings) (u : UseSite) : List Diagnostic :=
  if u.operation.isOfInterest then
    match u.collect s.policy with
    | .ok collected =>
      s.adviceDiagnostics u collected.advice ++ (s.availabilityDiagnostic u collected.record).toList
    | .error _ => []
  else []

/-! ## Many uses -/

/-- The diagnostics for uses, in the order of the uses. -/
def diagnosticsForAll (s : Settings) (us : List UseSite) : List Diagnostic :=
  us.flatMap s.diagnosticsFor

/-- The sink after the diagnostics for a use came. -/
def analyze (s : Settings) (u : UseSite) (sink : Sink) : Sink := sink.emitAll (s.diagnosticsFor u)

/-- The sink after the diagnostics for uses came. -/
def analyzeAll (s : Settings) (us : List UseSite) (sink : Sink) : Sink :=
  sink.emitAll (s.diagnosticsForAll us)

/-- To analyse uses together is to analyse them one after the other. -/
theorem analyzeAll_eq_foldl (s : Settings) (us : List UseSite) (sink : Sink) :
    s.analyzeAll us sink = us.foldl (fun sink u => s.analyze u sink) sink := by
  induction us generalizing sink with
  | nil => rfl
  | cons u us ih =>
    rw [List.foldl_cons, ← ih]
    simp [analyzeAll, analyze, diagnosticsForAll, Sink.emitAll]

end Settings

end ApiAvailability
