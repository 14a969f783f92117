/-
Advice comes first, and it is independent of the platform, the target and the
policy.

What is reported of a use falls into two parts: the diagnostics for the advice
around it, and after them at most one about its availability. The codes tell the
two apart, so each part can be read off the whole (`filter_advice_diagnosticsFor`).

The platform and the target come into the second part alone. The policy comes
into what is gathered, and could come into the advice, because the advice of the
declaring type is gathered only if the symbols that the use shows state nothing.
But whether they state anything, and whether gathering fails, is the same under
every policy, and so is the advice (`advice_gathered?`).
-/
import ApiAvailability.Proofs.PlatformView
import ApiAvailability.Proofs.PolicyComparison

set_option autoImplicit false

namespace ApiAvailability

/-! ## The codes of the two parts -/

/-- Neither decision speaks of advice. -/
theorem Advisory.kind_of_advise? {record : Option Record} {minimum : Option Deployment}
    {p : Platform} {a : Advisory} (h : advise? record minimum p = some a) :
    a.kind = .introducedLater ∨ a.kind = .deprecatedOrObsoleted := by
  have hkind := kind_advise? record minimum p
  rw [h, Option.map_some] at hkind
  by_cases hdeprecation : (deprecation? record p).isSome
  · rw [if_pos hdeprecation] at hkind
    exact Or.inr (Option.some.inj hkind)
  · rw [if_neg hdeprecation] at hkind
    by_cases hintroduction : (introduction? record minimum p).isSome
    · rw [if_pos hintroduction] at hkind
      exact Or.inl (Option.some.inj hkind)
    · rw [if_neg hintroduction] at hkind
      cases hkind

namespace Settings

theorem code_of_mem_adviceFor {s : Settings} {u : UseSite} {d : Diagnostic}
    (h : d ∈ s.adviceFor u) : d.code = AdvisoryKind.advice.code := by
  obtain ⟨text, hreport⟩ := exists_report_of_mem_adviceFor h
  exact code_of_report hreport

theorem code_of_availabilityFor {s : Settings} {u : UseSite} {d : Diagnostic}
    (h : s.availabilityFor u = some d) :
    d.code = AdvisoryKind.introducedLater.code ∨
      d.code = AdvisoryKind.deprecatedOrObsoleted.code := by
  obtain ⟨c, a, -, ha, hreport⟩ := exists_report_of_availabilityFor h
  rw [code_of_report hreport]
  rcases Advisory.kind_of_advise? ha with hkind | hkind
  · rw [hkind]
    exact Or.inl rfl
  · rw [hkind]
    exact Or.inr rfl

/-- The code of advice selects the first part. -/
theorem filter_advice_diagnosticsFor (s : Settings) (u : UseSite) :
    (s.diagnosticsFor u).filter (·.code = AdvisoryKind.advice.code) = s.adviceFor u := by
  have hadvice : (s.adviceFor u).filter (·.code = AdvisoryKind.advice.code) = s.adviceFor u := by
    rw [List.filter_eq_self]
    intro d hd
    exact decide_eq_true (code_of_mem_adviceFor hd)
  have hrest : (s.availabilityFor u).toList.filter (·.code = AdvisoryKind.advice.code) = [] := by
    rw [List.filter_eq_nil_iff]
    intro d hd
    rcases code_of_availabilityFor (Option.mem_toList.1 hd) with hcode | hcode
    · rw [hcode]
      decide
    · rw [hcode]
      decide
  -- The filter keeps the first part as a whole and drops the second one.
  rw [diagnosticsFor_eq_append, List.filter_append, hadvice, hrest, List.append_nil]

theorem availabilityFor_of_platform_eq_none {s : Settings} (h : s.platform = .none)
    (u : UseSite) : s.availabilityFor u = none := by
  rw [availabilityFor, Option.bind_eq_none_iff]
  intro c _
  rw [availabilityDiagnostic, h, Advisory.advise?_none_platform, Option.bind_none]

/-! ## What the first part depends on -/

/-- The same advice is gathered under every policy. -/
theorem advice_gathered? (policy policy' : ConflictPolicy) (u : UseSite) :
    (u.gathered? policy).map Collected.advice = (u.gathered? policy').map Collected.advice := by
  rcases u.gathered?_policies with hnone | ⟨blend, newest, hblend, hnewest, hadvice, -⟩
  · rw [hnone, hnone]
  · -- Where both gather something, the two records differ and the advice does not.
    have hsame : ∀ policy, (u.gathered? policy).map Collected.advice = some newest.advice := by
      intro policy
      cases policy with
      | bitwiseOr => rw [hblend, Option.map_some, hadvice]
      | preferNewest => rw [hnewest, Option.map_some]
    rw [hsame, hsame]

/-- The rules are asked about codes only. -/
theorem report_congr {s s' : Settings} (hallow : ∀ code, code ∈ s.allow ↔ code ∈ s'.allow)
    (hdeny : ∀ code, code ∈ s.deny ↔ code ∈ s'.deny) : s.report = s'.report := by
  funext place kind message
  simp only [report, hallow, hdeny]

theorem adviceFor_congr {s s' : Settings} (hallow : ∀ code, code ∈ s.allow ↔ code ∈ s'.allow)
    (hdeny : ∀ code, code ∈ s.deny ↔ code ∈ s'.deny) (u : UseSite) :
    s.adviceFor u = s'.adviceFor u := by
  have hadvice : s.adviceDiagnostics u = s'.adviceDiagnostics u := by
    funext advice
    rw [adviceDiagnostics, adviceDiagnostics, report_congr hallow hdeny]
  rw [adviceFor, adviceFor, hadvice, advice_gathered? s.policy s'.policy u]

/-- **Advice is independent of the platform, the target and the policy.** Two
analyses that allow and deny the same codes report the same advice of a use.
In what is reported of a use the advice comes first, with at most one diagnostic
after it, which says that the API is too new, or that it is unavailable,
obsoleted or deprecated; without a platform there is no such diagnostic. -/
theorem diagnosticsFor_advice_first (u : UseSite) :
    (∀ s s' : Settings, (∀ code, code ∈ s.allow ↔ code ∈ s'.allow) →
      (∀ code, code ∈ s.deny ↔ code ∈ s'.deny) →
      (s.diagnosticsFor u).filter (·.code = AdvisoryKind.advice.code) =
        (s'.diagnosticsFor u).filter (·.code = AdvisoryKind.advice.code)) ∧
    ∀ s : Settings, ∃ last : Option Diagnostic,
      s.diagnosticsFor u =
        (s.diagnosticsFor u).filter (·.code = AdvisoryKind.advice.code) ++ last.toList ∧
      (∀ d ∈ last, d.code = AdvisoryKind.introducedLater.code ∨
        d.code = AdvisoryKind.deprecatedOrObsoleted.code) ∧
      (s.platform = .none → last = none) := by
  constructor
  · intro s s' hallow hdeny
    rw [filter_advice_diagnosticsFor, filter_advice_diagnosticsFor, adviceFor_congr hallow hdeny]
  · -- The last diagnostic is the second part.
    intro s
    refine ⟨s.availabilityFor u, ?_, fun d hd => code_of_availabilityFor hd,
      fun hplatform => availabilityFor_of_platform_eq_none hplatform u⟩
    rw [filter_advice_diagnosticsFor]
    exact s.diagnosticsFor_eq_append u

/-- A member that states nothing, in a type with two versions. The second analysis
has the rules of the first one in another order, no platform and the other policy. -/
theorem diagnosticsFor_advice_first_declaringType :
    let type : Symbol :=
      { Symbol.plain "type" .type with
        attributes := [.ofAdvice "type", .ios 9 0, .ios 10 0] }
    let u : UseSite :=
      ⟨⟨"symbol", .method, [.ofAdvice "symbol"], none, none, some type⟩, .invocation, .read, none⟩
    let s : Settings :=
      ⟨.iOS, some ⟨10, 0, 0⟩, .bitwiseOr, [⟨.apple, 1003⟩], [⟨.apple, 1001⟩, ⟨.apple, 1002⟩]⟩
    let s' : Settings :=
      ⟨.none, none, .preferNewest, [⟨.apple, 1003⟩, ⟨.apple, 1003⟩],
        [⟨.apple, 1002⟩, ⟨.apple, 1001⟩]⟩
    (∀ code, code ∈ s.allow ↔ code ∈ s'.allow) ∧ (∀ code, code ∈ s.deny ↔ code ∈ s'.deny) ∧
    s'.platform = .none ∧
    (s.diagnosticsFor u).map (·.message) =
      ["symbol", "type", "'symbol' is only available on iOS 11.0 or newer"] ∧
    (s.diagnosticsFor u).filter (·.code = AdvisoryKind.advice.code) = s'.diagnosticsFor u := by
  intro type u s s'
  have hallow : ∀ code, code ∈ s.allow ↔ code ∈ s'.allow := by simp [s, s']
  have hdeny : ∀ code, code ∈ s.deny ↔ code ∈ s'.deny := by simp [s, s', or_comm]
  obtain ⟨hsame, hshape⟩ := diagnosticsFor_advice_first u
  obtain ⟨last, heq, -, hlast⟩ := hshape s'
  refine ⟨hallow, hdeny, rfl, by decide, ?_⟩
  rw [hlast rfl, Option.toList_none, List.append_nil] at heq
  rw [hsame s s' hallow hdeny, ← heq]

end Settings

end ApiAvailability
