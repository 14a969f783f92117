/-
What allowing and denying rules changes in what is reported.

The two lists are consulted where a diagnostic is made, and come last: it is
dropped if its code is allowed, and else an error if its code is denied
(`report_eq`). So a whole analysis reports what it would report without any such
rules, less the allowed codes, and with the denied ones raised
(`diagnosticsForAll_eq`): no diagnostic stands or falls with another one, and
but for the severity none is changed.

On their own the rules report nothing but information. After a run there are
therefore two severities, told apart by the code alone, and the two counters of
a report, of which the sink keeps one on its own, add up to the number of
diagnostics (`analyzeAll_rules`).
-/
import ApiAvailability.Attribute.Binding
import ApiAvailability.Compilation
import ApiAvailability.Proofs.UseReport

set_option autoImplicit false

namespace ApiAvailability

namespace Settings

/-! ## The rules apart from the analysis -/

/-- The same settings with no rule allowed and none denied. -/
def withoutRules (s : Settings) : Settings := { s with allow := [], deny := [] }

/-- What the settings make of a diagnostic: nothing if its code is allowed, and
an error if its code is denied. -/
def judge (s : Settings) (d : Diagnostic) : Option Diagnostic :=
  if d.code ∈ s.allow then none
  else some (if d.code ∈ s.deny then { d with severity := .error } else d)

theorem report_withoutRules (s : Settings) (place : Option Location) (kind : AdvisoryKind)
    (message : String) : s.withoutRules.report place kind message =
      some { Diagnostic.advisory kind message with location := place } := by
  simp [report, withoutRules]

/-- **The rules are applied where a diagnostic is made,** and come after
everything else that is decided about it. -/
theorem report_eq (s : Settings) (place : Option Location) (kind : AdvisoryKind)
    (message : String) : s.report place kind message =
      (s.withoutRules.report place kind message).bind s.judge := by
  rw [report_withoutRules, Option.bind_some, judge, report]
  -- The code of what is made is that of the kind.
  show (if kind.code ∈ s.allow then none else _) = if kind.code ∈ s.allow then none else _
  by_cases hallow : kind.code ∈ s.allow
  · rw [if_pos hallow, if_pos hallow]
  · rw [if_neg hallow, if_neg hallow]
    show some _ = some (if kind.code ∈ s.deny then _ else _)
    by_cases hdeny : kind.code ∈ s.deny
    · simp only [if_pos hdeny]
    · simp only [if_neg hdeny]

theorem adviceDiagnostics_eq (s : Settings) (u : UseSite) (advice : List String) :
    s.adviceDiagnostics u advice =
      (s.withoutRules.adviceDiagnostics u advice).filterMap s.judge := by
  rw [adviceDiagnostics, adviceDiagnostics, List.filterMap_filterMap]
  have hreport : s.report u.location .advice =
      fun text => (s.withoutRules.report u.location .advice text).bind s.judge :=
    funext (s.report_eq u.location .advice)
  rw [hreport]

theorem availabilityDiagnostic_eq (s : Settings) (u : UseSite) (record : Option Record) :
    s.availabilityDiagnostic u record =
      (s.withoutRules.availabilityDiagnostic u record).bind s.judge := by
  show (Advisory.advise? record s.minimum s.platform).bind _ =
    ((Advisory.advise? record s.minimum s.platform).bind _).bind s.judge
  cases Advisory.advise? record s.minimum s.platform with
  | none => rfl
  | some a => exact s.report_eq u.location a.kind (a.textFor u.symbol.name)

theorem adviceFor_eq (s : Settings) (u : UseSite) :
    s.adviceFor u = (s.withoutRules.adviceFor u).filterMap s.judge := by
  show (Option.elim _ _ (s.adviceDiagnostics u) : List Diagnostic) =
    (Option.elim ((u.gathered? s.policy).map Collected.advice) _ _ : List Diagnostic).filterMap _
  cases (u.gathered? s.policy).map Collected.advice with
  | none => rfl
  | some advice => exact s.adviceDiagnostics_eq u advice

theorem availabilityFor_eq (s : Settings) (u : UseSite) :
    s.availabilityFor u = (s.withoutRules.availabilityFor u).bind s.judge := by
  show (u.gathered? s.policy).bind _ = ((u.gathered? s.policy).bind _).bind s.judge
  cases u.gathered? s.policy with
  | none => rfl
  | some c => exact s.availabilityDiagnostic_eq u c.record

theorem diagnosticsFor_eq (s : Settings) (u : UseSite) :
    s.diagnosticsFor u = (s.withoutRules.diagnosticsFor u).filterMap s.judge := by
  rw [diagnosticsFor_eq_append, diagnosticsFor_eq_append, List.filterMap_append, ← adviceFor_eq,
    availabilityFor_eq]
  cases s.withoutRules.availabilityFor u with
  | none => rfl
  | some d =>
    cases hjudge : s.judge d with
    | none => simp [hjudge]
    | some d' => simp [hjudge]

/-- **Over all uses** what is reported is what would be reported without allowed
and denied rules, judged one by one. -/
theorem diagnosticsForAll_eq (s : Settings) (us : List UseSite) :
    s.diagnosticsForAll us = (s.withoutRules.diagnosticsForAll us).filterMap s.judge := by
  rw [diagnosticsForAll, diagnosticsForAll, List.filterMap_flatMap]
  exact congrArg (List.flatMap · us) (funext s.diagnosticsFor_eq)

/-! ## What is reported of a rule -/

/-- Whatever is reported was made under a rule. -/
theorem exists_report_of_mem {s : Settings} {us : List UseSite} {d : Diagnostic}
    (h : d ∈ s.diagnosticsForAll us) :
    ∃ place kind message, s.report place kind message = some d := by
  obtain ⟨u, -, hu⟩ := List.mem_flatMap.1 h
  exact ⟨_, exists_report_of_mem_diagnosticsFor hu⟩

theorem defaultSeverity_rule (kind : AdvisoryKind) : kind.rule.defaultSeverity = .info := by
  cases kind <;> rfl

/-- The rules on their own report nothing but information. -/
theorem severity_of_mem_withoutRules {s : Settings} {us : List UseSite} {d : Diagnostic}
    (h : d ∈ s.withoutRules.diagnosticsForAll us) : d.severity = .info := by
  obtain ⟨place, kind, message, hreport⟩ := exists_report_of_mem h
  rw [report_withoutRules] at hreport
  cases hreport
  exact defaultSeverity_rule kind

/-- What is reported is under no allowed rule, and it is an error or an
information by whether its rule is denied. -/
theorem of_mem_diagnosticsForAll {s : Settings} {us : List UseSite} {d : Diagnostic}
    (h : d ∈ s.diagnosticsForAll us) :
    d.code ∉ s.allow ∧ d.severity = if d.code ∈ s.deny then .error else .info := by
  rw [diagnosticsForAll_eq] at h
  obtain ⟨plain, hplain, hjudge⟩ := List.mem_filterMap.1 h
  have hinfo := severity_of_mem_withoutRules hplain
  unfold judge at hjudge
  by_cases hallow : plain.code ∈ s.allow
  · rw [if_pos hallow] at hjudge
    cases hjudge
  · rw [if_neg hallow] at hjudge
    by_cases hdeny : plain.code ∈ s.deny
    · rw [if_pos hdeny] at hjudge
      cases hjudge
      exact ⟨hallow, (if_pos hdeny).symm⟩
    · rw [if_neg hdeny] at hjudge
      cases hjudge
      exact ⟨hallow, by rw [if_neg hdeny, hinfo]⟩

theorem severity_eq_error_iff {s : Settings} {us : List UseSite} {d : Diagnostic}
    (h : d ∈ s.diagnosticsForAll us) : d.severity = .error ↔ d.code ∈ s.deny := by
  rw [(of_mem_diagnosticsForAll h).2]
  by_cases hdeny : d.code ∈ s.deny <;> simp [hdeny]

theorem severity_eq_info_iff {s : Settings} {us : List UseSite} {d : Diagnostic}
    (h : d ∈ s.diagnosticsForAll us) : d.severity = .info ↔ d.code ∉ s.deny := by
  rw [(of_mem_diagnosticsForAll h).2]
  by_cases hdeny : d.code ∈ s.deny <;> simp [hdeny]

/-! ## The counters of a report -/

/-- What a run that comes to an end reports. -/
theorem report_of_run {c : Compilation} {us : List UseSite} {report : Report}
    (h : c.run us = .ok report) :
    ∃ s, c.settings = .ok s ∧ report = .ofSink (s.analyzeAll us .empty) := by
  unfold Compilation.run at h
  cases hsettings : c.settings with
  | error e =>
    rw [hsettings] at h
    cases h
  | ok s =>
    rw [hsettings] at h
    exact ⟨s, rfl, (Except.ok.inj h).symm⟩

theorem held_analyzeAll (s : Settings) (us : List UseSite) (sink : Sink) :
    (s.analyzeAll us sink).held = sink.held ++ s.diagnosticsForAll us :=
  Sink.held_emitAll ..

/-- The sink has counted the denied codes. -/
theorem errorCount_analyzeAll (s : Settings) (us : List UseSite) :
    (s.analyzeAll us .empty).errorCount =
      (s.diagnosticsForAll us).countP (·.severity = .error) := by
  rw [analyzeAll, Sink.errorCount_emitAll]
  exact Nat.zero_add _

/-- With the errors, the information makes up everything that is reported. -/
theorem countP_info_add_countP_error (s : Settings) (us : List UseSite) :
    (s.diagnosticsForAll us).countP (·.severity = .info) +
      (s.diagnosticsForAll us).countP (·.severity = .error) =
        (s.diagnosticsForAll us).length := by
  rw [List.length_eq_countP_add_countP (·.severity = .info)]
  congr 1
  refine List.countP_congr fun d hd => ?_
  have herror := severity_eq_error_iff hd
  have hinfo := severity_eq_info_iff hd
  simp only [decide_eq_true_eq]
  rw [herror, hinfo, Decidable.not_not]

/-- The report of a run has errors exactly if a denied code is in it. -/
theorem hasErrors_ofSink_iff (s : Settings) (us : List UseSite) :
    (Report.ofSink (s.analyzeAll us .empty)).hasErrors ↔
      ∃ d ∈ s.diagnosticsForAll us, d.code ∈ s.deny := by
  show decide ((s.analyzeAll us .empty).errorCount > 0) = true ↔ _
  rw [errorCount_analyzeAll, decide_eq_true_eq, gt_iff_lt, List.countP_pos_iff]
  constructor
  · rintro ⟨d, hd, herror⟩
    exact ⟨d, hd, (severity_eq_error_iff hd).1 (of_decide_eq_true herror)⟩
  · rintro ⟨d, hd, hdeny⟩
    exact ⟨d, hd, decide_eq_true ((severity_eq_error_iff hd).2 hdeny)⟩

/-- **What allowed and denied rules change.** An analysis leaves in a sink what
it would leave without them, judged one by one. So in the report of a run there
is no allowed code; what is reported is an error if its code is denied and an
information otherwise; the two counters count these and add up; and there are
errors exactly if a denied code is reported. -/
theorem analyzeAll_rules :
    (∀ (s : Settings) (us : List UseSite) (sink : Sink), (s.analyzeAll us sink).held =
      sink.held ++ (s.withoutRules.analyzeAll us .empty).held.filterMap s.judge) ∧
    ∀ (c : Compilation) (us : List UseSite) (report : Report), c.run us = .ok report →
      ∃ s, c.settings = .ok s ∧
        report.diagnostics = (s.withoutRules.diagnosticsForAll us).filterMap s.judge ∧
        (∀ d ∈ report.diagnostics, d.code ∉ s.allow ∧
          (d.severity = .error ↔ d.code ∈ s.deny) ∧ (d.severity = .info ↔ d.code ∉ s.deny)) ∧
        report.errorCount = report.diagnostics.countP (·.severity = .error) ∧
        report.infoCount + report.errorCount = report.diagnostics.length ∧
        (report.hasErrors ↔ ∃ d ∈ report.diagnostics, d.code ∈ s.deny) := by
  refine ⟨fun s us sink => ?_, fun c us report h => ?_⟩
  · rw [held_analyzeAll, held_analyzeAll, diagnosticsForAll_eq]
    rfl
  · obtain ⟨s, hsettings, rfl⟩ := report_of_run h
    have hheld : (Report.ofSink (s.analyzeAll us .empty)).diagnostics = s.diagnosticsForAll us :=
      held_analyzeAll s us .empty
    have herrors : (Report.ofSink (s.analyzeAll us .empty)).errorCount =
        (s.diagnosticsForAll us).countP (·.severity = .error) := errorCount_analyzeAll s us
    have hinfos : (Report.ofSink (s.analyzeAll us .empty)).infoCount =
        (s.diagnosticsForAll us).countP (·.severity = .info) := by
      rw [← hheld]
      rfl
    rw [hheld, herrors, hinfos]
    refine ⟨s, hsettings, s.diagnosticsForAll_eq us, fun d hd => ?_, rfl,
      s.countP_info_add_countP_error us, s.hasErrors_ofSink_iff us⟩
    exact ⟨(of_mem_diagnosticsForAll hd).1, severity_eq_error_iff hd, severity_eq_info_iff hd⟩

/-- Advice on a deprecated API in a project that denies the use of such an API,
and allows a rule that does not come up. -/
theorem analyzeAll_rules_denied :
    let c : Compilation :=
      ⟨"[rules]\nallow = ['XIA1002']\ndeny = ['deprecated']\n", ["Xamarin.iOS"], none⟩
    let u : UseSite :=
      ⟨{ Symbol.plain "symbol" .method with
          attributes := [.ofAdvice "advice", .single .deprecated .iOS 9 0 .every none] },
        .invocation, .read, none⟩
    ∃ s report, c.settings = .ok s ∧ c.run [u] = .ok report ∧
      report.diagnostics.map (fun d => (d.code, d.severity)) =
        [(⟨.apple, 1001⟩, .info), (⟨.apple, 1003⟩, .error)] ∧
      report.infoCount + report.errorCount = report.diagnostics.length ∧
      (report.hasErrors ↔ ∃ d ∈ report.diagnostics, d.code ∈ s.deny) := by
  intro c u
  have hreported : (c.run [u]).toOption.map (·.diagnostics.map fun d => (d.code, d.severity)) =
      some [(⟨.apple, 1001⟩, .info), (⟨.apple, 1003⟩, .error)] := by decide +kernel
  cases hrun : c.run [u] with
  | error e =>
    rw [hrun] at hreported
    cases hreported
  | ok report =>
    rw [hrun] at hreported
    obtain ⟨s, hsettings, -, -, -, hcounts, herrors⟩ := analyzeAll_rules.2 c [u] report hrun
    exact ⟨s, report, hsettings, rfl, Option.some.inj hreported, hcounts, herrors⟩

end Settings

end ApiAvailability
