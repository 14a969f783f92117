/-
What is reported of one use, in two parts.

A use is passed over because nobody is interested in its operation or because
gathering around it fails; otherwise something was gathered (`gathered?`), and what
is reported follows from it: the diagnostics for the advice (`adviceFor`), and
after them at most one about the availability (`availabilityFor`). Everything that
is said of reports elsewhere is said of these two parts and put together by
`diagnosticsFor_eq_append`.

What is reported was made under a rule, and its code is that of the rule.
-/
import ApiAvailability.Analysis

set_option autoImplicit false

namespace ApiAvailability

namespace UseSite

def gathered? (policy : ConflictPolicy) (u : UseSite) : Option Collected :=
  if u.operation.isOfInterest then (u.collect policy).toOption else none

theorem gathered?_of_collect_eq_error {policy : ConflictPolicy} {u : UseSite} {e : CollectError}
    (h : u.collect policy = .error e) : u.gathered? policy = none := by
  rw [gathered?, h]
  exact ite_self _

theorem collect_of_gathered? {policy : ConflictPolicy} {u : UseSite} {c : Collected}
    (h : u.gathered? policy = some c) : u.collect policy = .ok c := by
  rw [gathered?, Option.ite_none_right_eq_some] at h
  cases hcollect : u.collect policy with
  | error e =>
    rw [hcollect] at h
    cases h.2
  | ok c' =>
    rw [hcollect] at h
    rw [Option.some.inj h.2]

end UseSite

namespace Settings

/-! ## The two parts -/

/-- The diagnostics of a use for the advice around it. -/
def adviceFor (s : Settings) (u : UseSite) : List Diagnostic :=
  ((u.gathered? s.policy).map Collected.advice).elim [] (s.adviceDiagnostics u)

/-- The diagnostic of a use about its availability, if there is one. -/
def availabilityFor (s : Settings) (u : UseSite) : Option Diagnostic :=
  (u.gathered? s.policy).bind fun c => s.availabilityDiagnostic u c.record

/-- **The two parts** make up what is reported of a use. -/
theorem diagnosticsFor_eq_append (s : Settings) (u : UseSite) :
    s.diagnosticsFor u = s.adviceFor u ++ (s.availabilityFor u).toList := by
  unfold diagnosticsFor adviceFor availabilityFor UseSite.gathered?
  by_cases hoperation : u.operation.isOfInterest
  · rw [if_pos hoperation, if_pos hoperation]
    cases u.collect s.policy with
    | ok c => rfl
    | error e => rfl
  · -- A use of no interest has neither part.
    rw [if_neg hoperation, if_neg hoperation]
    rfl

theorem diagnosticsFor_of_gathered?_eq_none {s : Settings} {u : UseSite}
    (h : u.gathered? s.policy = none) : s.diagnosticsFor u = [] := by
  rw [diagnosticsFor_eq_append, adviceFor, availabilityFor, h]
  rfl

/-! ## What the parts are made of -/

/-- A diagnostic for advice was made of a text. -/
theorem exists_report_of_mem_adviceFor {s : Settings} {u : UseSite} {d : Diagnostic}
    (h : d ∈ s.adviceFor u) : ∃ text, s.report u.location .advice text = some d := by
  unfold adviceFor at h
  cases hadvice : (u.gathered? s.policy).map Collected.advice with
  | none =>
    rw [hadvice] at h
    cases h
  | some advice =>
    rw [hadvice] at h
    obtain ⟨text, -, hreport⟩ := List.mem_filterMap.1 h
    exact ⟨text, hreport⟩

/-- A diagnostic about the availability was made of an advisory about the record. -/
theorem exists_report_of_availabilityFor {s : Settings} {u : UseSite} {d : Diagnostic}
    (h : s.availabilityFor u = some d) :
    ∃ c a, u.gathered? s.policy = some c ∧
      Advisory.advise? c.record s.minimum s.platform = some a ∧
      s.report u.location a.kind (a.textFor u.symbol.name) = some d := by
  obtain ⟨c, hc, hd⟩ := Option.bind_eq_some_iff.1 h
  obtain ⟨a, ha, hreport⟩ := Option.bind_eq_some_iff.1 hd
  exact ⟨c, a, hc, ha, hreport⟩

/-- Whatever is reported was made under a rule. -/
theorem exists_report_of_mem_diagnosticsFor {s : Settings} {u : UseSite} {d : Diagnostic}
    (h : d ∈ s.diagnosticsFor u) :
    ∃ kind message, s.report u.location kind message = some d := by
  rw [diagnosticsFor_eq_append, List.mem_append] at h
  rcases h with hadvice | havailability
  · obtain ⟨text, hreport⟩ := exists_report_of_mem_adviceFor hadvice
    exact ⟨_, text, hreport⟩
  · obtain ⟨c, a, -, -, hreport⟩ :=
      exists_report_of_availabilityFor (Option.mem_toList.1 havailability)
    exact ⟨_, _, hreport⟩

theorem message_of_report {s : Settings} {place : Option Location} {kind : AdvisoryKind}
    {message : String} {d : Diagnostic} (h : s.report place kind message = some d) :
    d.message = message := by
  unfold report at h
  split at h
  · cases h
  · cases h
    rfl

/-! ## Codes -/

/-- What is reported has the code of its kind, and it is reported unless this
code is allowed. -/
theorem code_report (s : Settings) (place : Option Location) (kind : AdvisoryKind)
    (message : String) : (s.report place kind message).map Diagnostic.code =
      (some kind.code).filter (· ∉ s.allow) := by
  unfold report
  by_cases hallow : kind.code ∈ s.allow
  · rw [if_pos hallow]
    simp [Option.filter, hallow]
  · rw [if_neg hallow]
    simp [Option.filter, hallow]
    rfl

theorem code_of_report {s : Settings} {place : Option Location} {kind : AdvisoryKind}
    {message : String} {d : Diagnostic} (h : s.report place kind message = some d) :
    d.code = kind.code := by
  have hcode := code_report s place kind message
  rw [h, Option.map_some] at hcode
  exact (Option.some.inj (Option.filter_eq_some_iff.1 hcode.symm).1).symm

end Settings

end ApiAvailability
