/-
What a later deployment target changes in what is reported.

Two analyses are compared that differ in the target alone: that of the second one
is no earlier, or there is none. Targets are ordered by three parts, while an API
is compared with two of them; but a target that is no earlier has no earlier
first two parts, so an API that is newer than the second target is newer than the
first one (`Slot.LaterThan.of_raised`).

The target comes into the last row of the table only. So the second analysis says
of a record what the first one does, or nothing where the first one says that the
API is too new (`advise?_of_raised`): nothing else moves up into its place. Use by
use, and then over all uses, diagnostics under this one rule are left out and all
others stay as they are, in their order (`Thinned`).
-/
import ApiAvailability.Attribute.Binding
import ApiAvailability.Proofs.AdviceFirst
import ApiAvailability.Proofs.RuleOverrides

set_option autoImplicit false

namespace ApiAvailability

/-! ## Later targets -/

namespace Deployment

/-- The parts of the target as the digits of one number, major first. -/
def number (d : Deployment) : Nat :=
  d.major.toNat * 0x10000 + (d.minor.toNat * 0x100 + d.patch.toNat)

/-- Targets are compared as numbers, because they are compared as the versions of
slots are. -/
theorem compare_eq_compare_number (d e : Deployment) :
    d.compare e = Ord.compare d.number e.number :=
  Slot.compareVersion_eq_compare ⟨.none, .unstated, d.major, d.minor, d.patch⟩
    ⟨.none, .unstated, e.major, e.minor, e.patch⟩

/-- The second target is no earlier than the first one, or there is none. -/
def Raised (minimum minimum' : Option Deployment) : Prop :=
  ∀ e, minimum' = some e → ∃ d, minimum = some d ∧ d.compare e ≠ .gt

/-- Of two numbers the one with the greater digits before the last is greater,
whatever its last digit. -/
theorem le_of_digits_le {base a b c d : Nat} (h : a * base + c ≤ b * base + d) (hd : d < base) :
    a ≤ b := by
  refine Nat.le_of_lt_succ (Nat.lt_of_mul_lt_mul_right (a := base) ?_)
  rw [Nat.succ_mul]
  omega

/-- The first two parts of a target that is no earlier are no earlier. -/
theorem versionNumber_target_le {d e : Deployment} (h : d.compare e ≠ .gt) (p : Platform) :
    (d.target p).versionNumber ≤ (e.target p).versionNumber := by
  have hnumber : ∀ f : Deployment,
      f.number = (f.major.toNat * 0x100 + f.minor.toNat) * 0x100 + f.patch.toNat := by
    intro f
    rw [number]
    omega
  -- The last digit may become smaller, but the digits before it do not.
  rw [compare_eq_compare_number, Nat.compare_ne_gt, hnumber, hnumber] at h
  rw [versionNumber_target, versionNumber_target]
  exact Nat.mul_le_mul_right 0x100 (le_of_digits_le h e.patch.toNat_lt)

end Deployment

theorem Slot.LaterThan.of_raised {s : Slot} {d e : Deployment} (h : s.LaterThan e)
    (hraised : d.compare e ≠ .gt) : s.LaterThan d := by
  rw [s.laterThan_iff _ .none] at h ⊢
  exact Nat.lt_of_le_of_lt (Deployment.versionNumber_target_le hraised .none) h

/-! ## One record -/

section

variable {minimum minimum' : Option Deployment}

/-- Whether an API is too new does not depend on anything but the row itself, so a
text about it stays or goes. -/
theorem PlatformView.tooNew?_of_raised (v : PlatformView)
    (h : Deployment.Raised minimum minimum') :
    v.tooNew? minimum' = v.tooNew? minimum ∨ v.tooNew? minimum' = none := by
  cases hminimum : minimum' with
  | none => exact Or.inr rfl
  | some e =>
    obtain ⟨d, rfl, hraised⟩ := h e hminimum
    rw [tooNew?, tooNew?]
    by_cases hlater : v.introduced.isSpecified ∧ v.introduced.LaterThan e
    · have hlater' : v.introduced.isSpecified ∧ v.introduced.LaterThan d :=
        ⟨hlater.1, hlater.2.of_raised hraised⟩
      rw [if_pos hlater, if_pos hlater']
      exact Or.inl rfl
    · rw [if_neg hlater]
      exact Or.inr rfl

/-- The table says the same for a later target, or nothing where an API was too
new for the first one. -/
theorem PlatformView.advisory?_of_raised (v : PlatformView)
    (h : Deployment.Raised minimum minimum') :
    v.advisory? minimum' = v.advisory? minimum ∨
      v.advisory? minimum' = none ∧
        ∀ a, v.advisory? minimum = some a → a.kind = .introducedLater := by
  unfold advisory?
  cases v.withdrawal? with
  | some text => exact Or.inl rfl
  | none =>
    -- Only the last row is left, so where it goes nothing takes its place.
    rcases v.tooNew?_of_raised h with hsame | hnone
    · rw [hsame]
      exact Or.inl rfl
    · rw [hnone]
      refine Or.inr ⟨rfl, fun a ha => ?_⟩
      cases htext : v.tooNew? minimum with
      | none =>
        rw [htext] at ha
        cases ha
      | some text =>
        rw [htext] at ha
        cases ha
        rfl

/-- **One record and two targets.** Of the record the same is said for the later
target, or nothing where the API is too new for the first one. -/
theorem Advisory.advise?_of_raised (record : Option Record)
    (h : Deployment.Raised minimum minimum') (p : Platform) :
    advise? record minimum' p = advise? record minimum p ∨
      advise? record minimum' p = none ∧
        ∀ a, advise? record minimum p = some a → a.kind = .introducedLater := by
  rw [advise?_eq, advise?_eq]
  cases record.bind fun r => r.viewFor? p with
  | none => exact Or.inl rfl
  | some v => exact v.advisory?_of_raised h

end

/-! ## Diagnostics that are left out -/

/-- The second list is the first one with any number of diagnostics of a code left
out. -/
inductive Diagnostic.Thinned (code : Code) : List Diagnostic → List Diagnostic → Prop
  | nil : Thinned code [] []
  | keep (d : Diagnostic) {before after : List Diagnostic} (h : Thinned code before after) :
    Thinned code (d :: before) (d :: after)
  | drop (d : Diagnostic) (hd : d.code = code) {before after : List Diagnostic}
    (h : Thinned code before after) : Thinned code (d :: before) after

namespace Diagnostic.Thinned

variable {code : Code} {before after before' after' : List Diagnostic}

theorem refl (l : List Diagnostic) : Thinned code l l := by
  induction l with
  | nil => exact nil
  | cons d l ih => exact keep d ih

theorem append (h : Thinned code before after) (h' : Thinned code before' after') :
    Thinned code (before ++ before') (after ++ after') := by
  induction h with
  | nil => exact h'
  | keep d h ih => exact keep d ih
  | drop d hd h ih => exact drop d hd ih

/-- Lists that are put together from thinned ones are thinned. -/
theorem flatMap {α : Type} (l : List α) {f g : α → List Diagnostic}
    (h : ∀ a, Thinned code (f a) (g a)) : Thinned code (l.flatMap f) (l.flatMap g) := by
  induction l with
  | nil => exact nil
  | cons a l ih => exact (h a).append ih

/-- Nothing is added, and nothing changes its place. -/
theorem sublist (h : Thinned code before after) : after.Sublist before := by
  induction h with
  | nil => exact .slnil
  | keep d h ih => exact ih.cons_cons d
  | drop d hd h ih => exact ih.cons d

/-- The diagnostics of other codes stay. -/
theorem filter_eq (h : Thinned code before after) :
    after.filter (·.code ≠ code) = before.filter (·.code ≠ code) := by
  induction h with
  | nil => rfl
  | keep d h ih => rw [List.filter_cons, List.filter_cons, ih]
  | drop d hd h ih => rw [ih, List.filter_cons_of_neg (by simpa using hd)]

end Diagnostic.Thinned

/-! ## What is reported -/

namespace Settings

/-- The settings with another target. -/
def withMinimum (s : Settings) (minimum : Option Deployment) : Settings :=
  { s with minimum := minimum }

variable {s : Settings} {minimum' : Option Deployment}

/-- The target counts only for what is said of the record. -/
theorem availabilityFor_withMinimum (s : Settings) (minimum : Option Deployment) (u : UseSite) :
    (s.withMinimum minimum).availabilityFor u = (u.gathered? s.policy).bind fun c =>
      (Advisory.advise? c.record minimum s.platform).bind fun a =>
        s.report u.location a.kind (a.textFor u.symbol.name) :=
  rfl

theorem availabilityFor_of_raised (h : Deployment.Raised s.minimum minimum') (u : UseSite) :
    (s.withMinimum minimum').availabilityFor u = s.availabilityFor u ∨
      (s.withMinimum minimum').availabilityFor u = none ∧
        ∀ d, s.availabilityFor u = some d → d.code = AdvisoryKind.introducedLater.code := by
  have hbefore : s.availabilityFor u = (s.withMinimum s.minimum).availabilityFor u := rfl
  rw [hbefore, availabilityFor_withMinimum, availabilityFor_withMinimum]
  cases u.gathered? s.policy with
  | none => exact Or.inl rfl
  | some c =>
    rw [Option.bind_some, Option.bind_some]
    -- The rules are the same, so it is a matter of what is said of the record.
    rcases Advisory.advise?_of_raised c.record h s.platform with hsame | ⟨hnone, hkind⟩
    · rw [hsame]
      exact Or.inl rfl
    · rw [hnone]
      refine Or.inr ⟨rfl, fun d hd => ?_⟩
      obtain ⟨a, ha, hreport⟩ := Option.bind_eq_some_iff.1 hd
      rw [code_of_report hreport, hkind a ha]

/-- **One use and two targets.** -/
theorem thinned_diagnosticsFor (h : Deployment.Raised s.minimum minimum') (u : UseSite) :
    Diagnostic.Thinned AdvisoryKind.introducedLater.code (s.diagnosticsFor u)
      ((s.withMinimum minimum').diagnosticsFor u) := by
  have hadvice : (s.withMinimum minimum').adviceFor u = s.adviceFor u := rfl
  -- The target does not come into the first part, and the second one is one diagnostic.
  rw [diagnosticsFor_eq_append, diagnosticsFor_eq_append, hadvice]
  refine (Diagnostic.Thinned.refl _).append ?_
  rcases availabilityFor_of_raised h u with hsame | ⟨hnone, hcode⟩
  · rw [hsame]
    exact .refl _
  · rw [hnone]
    cases hbefore : s.availabilityFor u with
    | none => exact .nil
    | some d => exact .drop d (hcode d hbefore) .nil

/-- **A later target only silences.** If the target is raised or removed, an
analysis reports what it did before, less any number of uses of APIs that are too
new. So nothing is reported that was not, and what is reported under the other
rules stays as it is, in its order. -/
theorem analyzeAll_raised (s : Settings) (minimum' : Option Deployment)
    (h : Deployment.Raised s.minimum minimum') (us : List UseSite) :
    let before := (s.analyzeAll us .empty).held
    let after := ((s.withMinimum minimum').analyzeAll us .empty).held
    Diagnostic.Thinned AdvisoryKind.introducedLater.code before after ∧
    after.Sublist before ∧
    after.filter (·.code ≠ AdvisoryKind.introducedLater.code) =
      before.filter (·.code ≠ AdvisoryKind.introducedLater.code) := by
  intro before after
  have hthinned : Diagnostic.Thinned AdvisoryKind.introducedLater.code before after := by
    simp only [before, after, held_analyzeAll]
    exact Diagnostic.Thinned.flatMap us (thinned_diagnosticsFor h)
  exact ⟨hthinned, hthinned.sublist, hthinned.filter_eq⟩

/-- The target is raised by a minor version, although its last part gets smaller,
and the first of two uses is not too new any more. -/
theorem analyzeAll_raised_minor :
    let use (a : Attribute) : UseSite :=
      ⟨{ Symbol.plain "symbol" .method with attributes := [.ofAdvice "advice", a] }, .invocation,
        .read, none⟩
    let us := [use (.ios 10 3), use (.single .deprecated .iOS 9 0 .every none)]
    let s : Settings := ⟨.iOS, some ⟨10, 2, 9⟩, .bitwiseOr, [], []⟩
    let before := (s.analyzeAll us .empty).held
    let after := ((s.withMinimum (some ⟨10, 3, 0⟩)).analyzeAll us .empty).held
    Deployment.Raised s.minimum (some ⟨10, 3, 0⟩) ∧
    before.map (·.code.number) = [1001, 1002, 1001, 1003] ∧
    after.map (·.code.number) = [1001, 1001, 1003] ∧
    Diagnostic.Thinned AdvisoryKind.introducedLater.code before after := by
  intro use us s before after
  have hraised : Deployment.Raised s.minimum (some ⟨10, 3, 0⟩) := by
    rintro e ⟨⟩
    exact ⟨_, rfl, by decide⟩
  exact ⟨hraised, by decide, by decide, (analyzeAll_raised s _ hraised us).1⟩

end Settings

end ApiAvailability
