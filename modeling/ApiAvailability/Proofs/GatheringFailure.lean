/-
When gathering around a use fails.

One sort of attribute is fatal: one about a single platform that by its first
argument, a byte, names none of the four. Its other arguments do not come into
it (`Attribute.Fatal`). Gathering fails where such an attribute is met, and what
is met is told by the use alone: the symbols that it shows come first, and the
declaring type only if these have no fatal attribute and state nothing. So the
error is that of the first fatal attribute of the first symbol that has one
(`collect_eq_error_iff`).

The policy has a say in what is stated, but not in whether anything is; so it
cannot make a difference to the error either. And a use around which gathering
fails is passed over in silence, with its advice (`collect_failure`).
-/
import ApiAvailability.Proofs.FlatGathering
import ApiAvailability.Proofs.PolicyComparison

set_option autoImplicit false

namespace ApiAvailability

/-! ## Fatal attributes -/

namespace Attribute

/-- The attribute is about one platform, and its first argument is a byte that
is 0 or at least 5. -/
def Fatal (a : Attribute) (value : UInt8) : Prop :=
  (∃ k, a.shape = .single k) ∧
  (∃ first rest, a.arguments = first :: rest ∧ first.byte? = some value) ∧
  (value = 0 ∨ 5 ≤ value)

theorem unknownByte?_eq_some_iff (a : Attribute) (value : UInt8) :
    a.unknownByte? = some value ↔ a.Fatal value := by
  have hfirst : a.arguments.head?.bind Argument.byte? = some value ↔
      ∃ first rest, a.arguments = first :: rest ∧ first.byte? = some value := by
    cases a.arguments with
    | nil => simp
    | cons first rest => simp
  unfold unknownByte? Fatal
  rw [← hfirst]
  cases a.shape with
  | single k => simp [Option.filter_eq_some_iff]
  | shorthand p => simp
  | aggregate => simp
  | advice => simp
  | unrecognized => simp

theorem mergeError?_eq_some_iff (a : Attribute) (e : MergeError) :
    a.mergeError? = some e ↔ ∃ value, a.Fatal value ∧ e = ⟨a.typeName, value⟩ := by
  rw [mergeError?, Option.map_eq_some_iff]
  constructor
  · rintro ⟨value, hvalue, rfl⟩
    exact ⟨value, (a.unknownByte?_eq_some_iff value).1 hvalue, rfl⟩
  · rintro ⟨value, hvalue, rfl⟩
    exact ⟨value, (a.unknownByte?_eq_some_iff value).2 hvalue, rfl⟩

theorem mergeError?_eq_none_iff (a : Attribute) :
    a.mergeError? = none ↔ ∀ value, ¬a.Fatal value := by
  rw [mergeError?, Option.map_eq_none_iff, Option.eq_none_iff_forall_ne_some]
  exact forall_congr' fun value => not_congr (a.unknownByte?_eq_some_iff value)

end Attribute

namespace Symbol

/-- Some attribute of the symbol is fatal. -/
def HasFatal (s : Symbol) : Prop := ∃ a ∈ s.attributes, ∃ value, a.Fatal value

/-- The error names the symbol, and the type and the byte of its first fatal
attribute. -/
def FailsWith (s : Symbol) (e : CollectError) : Prop :=
  ∃ before a after value, s.attributes = before ++ a :: after ∧
    (∀ b ∈ before, ∀ v, ¬b.Fatal v) ∧ a.Fatal value ∧ e = ⟨s.name, ⟨a.typeName, value⟩⟩

theorem collectError?_eq_some_iff (s : Symbol) (e : CollectError) :
    s.collectError? = some e ↔ s.FailsWith e := by
  rw [collectError?, Option.map_eq_some_iff]
  constructor
  · rintro ⟨cause, hcause, rfl⟩
    obtain ⟨before, a, after, heq, ha, hbefore⟩ := List.findSome?_eq_some_iff.1 hcause
    obtain ⟨value, hfatal, rfl⟩ := (a.mergeError?_eq_some_iff cause).1 ha
    exact ⟨before, a, after, value, heq,
      fun b hb => b.mergeError?_eq_none_iff.1 (hbefore b hb), hfatal, rfl⟩
  · rintro ⟨before, a, after, value, heq, hbefore, hfatal, rfl⟩
    refine ⟨⟨a.typeName, value⟩, List.findSome?_eq_some_iff.2 ?_, rfl⟩
    exact ⟨before, a, after, heq, (a.mergeError?_eq_some_iff _).2 ⟨value, hfatal, rfl⟩,
      fun b hb => b.mergeError?_eq_none_iff.2 (hbefore b hb)⟩

theorem collectError?_eq_none_iff (s : Symbol) : s.collectError? = none ↔ ¬s.HasFatal := by
  rw [collectError?, Option.map_eq_none_iff, List.findSome?_eq_none_iff]
  constructor
  · rintro hnone ⟨a, ha, value, hfatal⟩
    exact (a.mergeError?_eq_none_iff.1 (hnone a ha)) value hfatal
  · intro hfatal a ha
    exact a.mergeError?_eq_none_iff.2 fun value hvalue => hfatal ⟨a, ha, value, hvalue⟩

theorem isSome_collectError?_iff (s : Symbol) : s.collectError?.isSome ↔ s.HasFatal := by
  rw [← Option.ne_none_iff_isSome, Ne, collectError?_eq_none_iff, Classical.not_not]

/-- The symbols with a fatal attribute are those that there is an error for. -/
theorem hasFatal_iff (s : Symbol) : s.HasFatal ↔ ∃ e, s.FailsWith e := by
  rw [← isSome_collectError?_iff, Option.isSome_iff_exists]
  exact exists_congr s.collectError?_eq_some_iff

theorem findSome?_collectError?_eq_none_iff (l : List Symbol) :
    l.findSome? collectError? = none ↔ ∀ s ∈ l, ¬s.HasFatal := by
  simp only [List.findSome?_eq_none_iff, collectError?_eq_none_iff]

theorem findSome?_collectError?_eq_some_iff (l : List Symbol) (e : CollectError) :
    l.findSome? collectError? = some e ↔ ∃ before s after, l = before ++ s :: after ∧
      s.FailsWith e ∧ ∀ t ∈ before, ¬t.HasFatal := by
  simp only [List.findSome?_eq_some_iff, collectError?_eq_some_iff, collectError?_eq_none_iff]

/-- Where a symbol has a fatal attribute, some symbol is the first to have one. -/
theorem exists_first_of_hasFatal {l : List Symbol} (h : ∃ s ∈ l, s.HasFatal) :
    ∃ e before s after, l = before ++ s :: after ∧ s.FailsWith e ∧
      ∀ t ∈ before, ¬t.HasFatal := by
  obtain ⟨s, hs, hfatal⟩ := h
  have hsome : (l.findSome? collectError?).isSome :=
    List.findSome?_isSome_iff.2 ⟨s, hs, s.isSome_collectError?_iff.2 hfatal⟩
  obtain ⟨e, he⟩ := Option.isSome_iff_exists.1 hsome
  exact ⟨e, (findSome?_collectError?_eq_some_iff l e).1 he⟩

end Symbol

/-! ## Around a use -/

namespace UseSite

/-- The symbols that the use shows can be gathered, and they state nothing. -/
def StatesNothing (policy : ConflictPolicy) (u : UseSite) : Prop :=
  ∃ record, Record.mergeAttributes policy none u.shownAttributes = .ok record ∧
    ¬record.any Record.isSpecified

/-- Without fatal attributes it is known what the symbols that the use shows
state. -/
theorem statesNothing_iff {u : UseSite} (h : ∀ s ∈ u.shownSymbols, ¬s.HasFatal)
    (policy : ConflictPolicy) :
    u.StatesNothing policy ↔ ¬(u.ownRecord policy).any Record.isSpecified := by
  have hnone : ∀ a ∈ u.shownAttributes, a.unknownByte? = none := by
    intro a ha
    obtain ⟨s, hs, hmem⟩ := List.mem_flatMap.1 ha
    rw [Option.eq_none_iff_forall_ne_some]
    exact fun value hvalue => h s hs ⟨a, hmem, value, (a.unknownByte?_eq_some_iff value).1 hvalue⟩
  unfold StatesNothing
  rw [Record.mergeAttributes_eq_ok hnone, ← ownAttributes_eq]
  constructor
  · rintro ⟨record, hrecord, hnothing⟩
    cases hrecord
    exact hnothing
  · exact fun hnothing => ⟨u.ownRecord policy, rfl, hnothing⟩

theorem collectOuter_eq_error_iff (policy : ConflictPolicy) (u : UseSite) (e : CollectError) :
    u.collectOuter policy = .error e ↔
      ∃ type, u.symbol.declaringType = some type ∧ type.FailsWith e := by
  unfold collectOuter
  cases u.symbol.declaringType with
  | none => simp
  | some type =>
    have hfails := type.collectError?_eq_some_iff e
    cases herror : type.collectError? with
    | none => simp [← hfails, herror]
    | some e' => simp [← hfails, herror]

/-- **The error around a use** is that of the first symbol shown that has a fatal
attribute. If none has one and they state nothing, it is that of the declaring
type. -/
theorem collect_eq_error_iff (policy : ConflictPolicy) (u : UseSite) (e : CollectError) :
    u.collect policy = .error e ↔
      (∃ before s after, u.shownSymbols = before ++ s :: after ∧ s.FailsWith e ∧
        ∀ t ∈ before, ¬t.HasFatal) ∨
      (∀ s ∈ u.shownSymbols, ¬s.HasFatal) ∧ u.StatesNothing policy ∧
        ∃ type, u.symbol.declaringType = some type ∧ type.FailsWith e := by
  rw [← Symbol.findSome?_collectError?_eq_some_iff, collect_eq, ownSymbols_eq]
  cases herror : u.shownSymbols.findSome? Symbol.collectError? with
  | some e' =>
    have hfatal : ¬∀ s ∈ u.shownSymbols, ¬s.HasFatal := by
      rw [← Symbol.findSome?_collectError?_eq_none_iff, herror]
      exact nofun
    simp only [Except.error.injEq, Option.some.injEq, hfatal, false_and, or_false]
  | none =>
    have hnone := (Symbol.findSome?_collectError?_eq_none_iff _).1 herror
    rw [statesNothing_iff hnone]
    -- The declaring type is asked only if what comes before it states nothing.
    by_cases hspecified : (u.ownRecord policy).any Record.isSpecified
    · simp [hspecified]
    · rw [← u.collectOuter_eq_error_iff policy e, if_neg hspecified]
      simp only [reduceCtorEq, false_or, hspecified, not_false_eq_true, true_and,
        and_iff_right hnone]

/-- Gathering around a use fails exactly if a symbol that it shows has a fatal
attribute, or if these state nothing and the declaring type has one. -/
theorem exists_collect_eq_error_iff (policy : ConflictPolicy) (u : UseSite) :
    (∃ e, u.collect policy = .error e) ↔
      (∃ s ∈ u.shownSymbols, s.HasFatal) ∨
      (∀ s ∈ u.shownSymbols, ¬s.HasFatal) ∧ u.StatesNothing policy ∧
        ∃ type, u.symbol.declaringType = some type ∧ type.HasFatal := by
  constructor
  · rintro ⟨e, herror⟩
    rcases (u.collect_eq_error_iff policy e).1 herror with
      ⟨before, s, after, heq, hfails, -⟩ | ⟨hnone, hnothing, type, htype, hfails⟩
    · exact Or.inl ⟨s, by simp [heq], s.hasFatal_iff.2 ⟨e, hfails⟩⟩
    · exact Or.inr ⟨hnone, hnothing, type, htype, type.hasFatal_iff.2 ⟨e, hfails⟩⟩
  · rintro (hfatal | ⟨hnone, hnothing, type, htype, hfatal⟩)
    · obtain ⟨e, hfirst⟩ := Symbol.exists_first_of_hasFatal hfatal
      exact ⟨e, (u.collect_eq_error_iff policy e).2 (Or.inl hfirst)⟩
    · obtain ⟨e, hfails⟩ := type.hasFatal_iff.1 hfatal
      exact ⟨e, (u.collect_eq_error_iff policy e).2
        (Or.inr ⟨hnone, hnothing, type, htype, hfails⟩)⟩

/-- An error names the first symbol with a fatal attribute, the declaring type
being the last of those that can be visited. -/
theorem first_of_collect_eq_error {policy : ConflictPolicy} {u : UseSite} {e : CollectError}
    (h : u.collect policy = .error e) :
    ∃ before s after, u.shownSymbols ++ u.symbol.declaringType.toList = before ++ s :: after ∧
      s.FailsWith e ∧ ∀ t ∈ before, ¬t.HasFatal := by
  rcases (u.collect_eq_error_iff policy e).1 h with
    ⟨before, s, after, heq, hfails, hbefore⟩ | ⟨hnone, -, type, htype, hfails⟩
  · refine ⟨before, s, after ++ u.symbol.declaringType.toList, ?_, hfails, hbefore⟩
    rw [heq, List.append_assoc, List.cons_append]
  · refine ⟨u.shownSymbols, type, [], ?_, hfails, hnone⟩
    rw [htype, Option.toList_some]

/-- The policy makes no difference to an error. -/
theorem collect_eq_error_congr (policy policy' : ConflictPolicy) (u : UseSite)
    (e : CollectError) : u.collect policy = .error e ↔ u.collect policy' = .error e := by
  cases policy <;> cases policy' <;> simp only [u.collect_eq_error_iff_policies]

/-- A use around which gathering fails is passed over, under whatever settings. -/
theorem diagnosticsFor_of_collect_eq_error {policy : ConflictPolicy} {u : UseSite}
    (h : ∃ e, u.collect policy = .error e) (s : Settings) : s.diagnosticsFor u = [] := by
  obtain ⟨e, he⟩ := h
  have herror := (u.collect_eq_error_congr policy s.policy e).1 he
  exact Settings.diagnosticsFor_of_gathered?_eq_none (gathered?_of_collect_eq_error herror)

/-- **When gathering around a use fails.** It does exactly if a symbol that the
use shows has a fatal attribute, or if none has one, they state nothing, and the
declaring type has one. The error names the first symbol that has one, and
in it the type and the byte of the first. It is the same under every policy, and
nothing is then reported for the use, under whatever settings. -/
theorem collect_failure (policy : ConflictPolicy) (u : UseSite) :
    ((∃ e, u.collect policy = .error e) ↔
      (∃ s ∈ u.shownSymbols, s.HasFatal) ∨
      (∀ s ∈ u.shownSymbols, ¬s.HasFatal) ∧ u.StatesNothing policy ∧
        ∃ type, u.symbol.declaringType = some type ∧ type.HasFatal) ∧
    (∀ e, u.collect policy = .error e → ∃ before s after,
      u.shownSymbols ++ u.symbol.declaringType.toList = before ++ s :: after ∧
        s.FailsWith e ∧ ∀ t ∈ before, ¬t.HasFatal) ∧
    (∀ policy' e, u.collect policy' = .error e ↔ u.collect policy = .error e) ∧
    ((∃ e, u.collect policy = .error e) → ∀ s : Settings, s.diagnosticsFor u = []) :=
  ⟨u.exists_collect_eq_error_iff policy, fun _ => first_of_collect_eq_error,
    fun policy' => u.collect_eq_error_congr policy' policy, diagnosticsFor_of_collect_eq_error⟩

/-- A platform that does not exist, on the getter of a property with advice. -/
theorem collect_failure_accessor :
    let typo : Attribute := ⟨Shape.interopScope, "IntroducedAttribute", [.int 9], []⟩
    let getter : Symbol := { Symbol.plain "getter" .method with attributes := [typo] }
    let u : UseSite :=
      ⟨⟨"symbol", .property, [.ofAdvice "advice"], some getter, none, none⟩, .propertyReference,
        .read, none⟩
    u.collect .bitwiseOr = .error ⟨"getter", "IntroducedAttribute", 9⟩ ∧
    ∀ s : Settings, s.diagnosticsFor u = [] := by
  intro typo getter u
  have hfatal : typo.Fatal 9 := ⟨⟨.introduced, by decide⟩, ⟨.int 9, [], rfl, by decide⟩, by decide⟩
  have hsymbol : ¬u.symbol.HasFatal := u.symbol.collectError?_eq_none_iff.1 (by decide)
  have hfails : getter.FailsWith ⟨"getter", "IntroducedAttribute", 9⟩ :=
    ⟨[], typo, [], 9, rfl, nofun, hfatal, rfl⟩
  have herror : u.collect .preferNewest = .error ⟨"getter", "IntroducedAttribute", 9⟩ :=
    (u.collect_eq_error_iff _ _).2
      (Or.inl ⟨[u.symbol], getter, [], rfl, hfails, by simpa using hsymbol⟩)
  obtain ⟨-, -, hpolicies, hsilent⟩ := collect_failure .preferNewest u
  exact ⟨(hpolicies .bitwiseOr _).2 herror, hsilent ⟨_, herror⟩⟩

end UseSite

end ApiAvailability
