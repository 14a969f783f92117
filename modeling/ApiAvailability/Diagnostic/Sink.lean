/-
A sink: where diagnostics are gathered until somebody takes them.

It holds the diagnostics in the order in which they came and counts the errors
among all that ever came, so that taking the diagnostics out does not make it
forget that there were errors.
-/
import ApiAvailability.Diagnostic.Basic
set_option autoImplicit false

namespace ApiAvailability

/-- The diagnostics that are held, and the number of errors so far. -/
structure Sink where
  held : List Diagnostic
  errorCount : Nat
  deriving DecidableEq

namespace Sink

/-- The sink to which nothing came yet. -/
def empty : Sink := ⟨[], 0⟩

/-- The sink after a diagnostic came. -/
def emit (s : Sink) (d : Diagnostic) : Sink :=
  ⟨s.held ++ [d], if d.severity.isError then s.errorCount + 1 else s.errorCount⟩

/-- The sink after diagnostics came, in their order. -/
def emitAll (s : Sink) (ds : List Diagnostic) : Sink := ds.foldl emit s

/-- The diagnostics that are held, and the sink that holds none of them. -/
def takeAll (s : Sink) : List Diagnostic × Sink := (s.held, { s with held := [] })

/-- Whether an error ever came. -/
def hasErrors (s : Sink) : Bool := s.errorCount > 0

theorem held_emitAll (s : Sink) (ds : List Diagnostic) :
    (s.emitAll ds).held = s.held ++ ds := by
  induction ds generalizing s with
  | nil => simp [emitAll]
  | cons d ds ih => simpa [emitAll, emit] using ih (s.emit d)

theorem errorCount_emitAll (s : Sink) (ds : List Diagnostic) :
    (s.emitAll ds).errorCount = s.errorCount + ds.countP (·.severity.isError) := by
  induction ds generalizing s with
  | nil => simp [emitAll]
  | cons d ds ih =>
    have := ih (s.emit d)
    simp only [emitAll, List.foldl_cons] at this ⊢
    rw [this, emit, List.countP_cons]
    cases d.severity.isError with
    | false => simp
    | true =>
      simp only [if_true]
      omega

end Sink

end ApiAvailability
