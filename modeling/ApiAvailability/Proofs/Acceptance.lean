/-
Which settings of a project are accepted.

Two passes go through the settings. Validation looks at them alone, and stops at
a denied rule that is allowed too. Resolution makes the settings of an analysis
of them, and does not mind such a rule. Before the denied rules both read the
same in the same order (`readHead`), so they can only part over these. There
both are loops over one list. Over entries that name rules both go on, unless
validation meets a rule that is allowed (`checkDenied_append`), and at an entry
that names no rule both stop with the same error.

Hence settings are accepted exactly if they can be resolved with no code both
allowed and denied, and the passes tell different errors only where a conflict
comes before the first entry that names no rule (`validate_resolve`). What is
accepted can be resolved whatever the host found, so that a run can fail only
over the document with the settings.
-/
import ApiAvailability.Compilation

set_option autoImplicit false

namespace ApiAvailability

/-- A run that came to a value went through its first part. -/
theorem exists_of_bind_eq_ok {ε α β : Type} {x : Except ε α} {f : α → Except ε β} {b : β}
    (h : x.bind f = .ok b) : ∃ a, x = .ok a ∧ f a = .ok b := by
  cases x with
  | error e => cases h
  | ok a => exact ⟨a, rfl, h⟩

namespace Config

/-! ## Entries that name rules -/

/-- The code of the rule that an entry names, however it is spelled. -/
def codeOf? (ident : String) : Option Code := (Rule.lookup? ident).map Rule.code

/-- The codes of the rules that entries name, in their order. -/
def codesOf (entries : List String) : List Code := entries.filterMap codeOf?

/-- Every entry names a rule. -/
def AllNamed (entries : List String) : Prop := ∀ ident ∈ entries, (codeOf? ident).isSome

theorem codeNamed_of_some {ident : String} {code : Code} (h : codeOf? ident = some code) :
    codeNamed ident = .ok code := by
  obtain ⟨rule, hrule, rfl⟩ := Option.map_eq_some_iff.1 h
  unfold codeNamed
  rw [hrule]

theorem codeNamed_of_none {ident : String} (h : codeOf? ident = none) :
    codeNamed ident = .error (.unknownRule ident) := by
  have hrule : Rule.lookup? ident = none := Option.map_eq_none_iff.1 h
  unfold codeNamed
  rw [hrule]

theorem AllNamed.of_cons {ident : String} {rest : List String} (h : AllNamed (ident :: rest)) :
    (∃ code, codeOf? ident = some code) ∧ AllNamed rest := by
  have hident := h ident (List.mem_cons_self ..)
  exact ⟨Option.isSome_iff_exists.1 hident, fun i hi => h i (List.mem_cons_of_mem ident hi)⟩

/-- Either every entry names a rule, or there is a first one that names none. -/
theorem allNamed_or_exists (entries : List String) : AllNamed entries ∨
    ∃ known ident rest, entries = known ++ ident :: rest ∧ AllNamed known ∧
      codeOf? ident = none := by
  cases hfind : entries.find? fun ident => (codeOf? ident).isNone with
  | none =>
    left
    intro ident hident
    have hnone := List.find?_eq_none.1 hfind ident hident
    rwa [Bool.not_eq_true, Option.isNone_eq_false_iff] at hnone
  | some ident =>
    right
    obtain ⟨hident, known, rest, heq, hknown⟩ := List.find?_eq_some_iff_append.1 hfind
    refine ⟨known, ident, rest, heq, fun i hi => ?_, Option.isNone_iff_eq_none.1 hident⟩
    have hi' := hknown i hi
    rwa [Bool.not_eq_true', Option.isNone_eq_false_iff] at hi'

/-! ## The two loops -/

theorem codesNamed_append {known : List String} (h : AllNamed known) (rest : List String) :
    codesNamed (known ++ rest) = (codesNamed rest).map (codesOf known ++ ·) := by
  induction known with
  | nil =>
    rw [List.nil_append]
    cases codesNamed rest with
    | ok codes => rfl
    | error e => rfl
  | cons ident known ih =>
    obtain ⟨⟨code, hcode⟩, hknown⟩ := h.of_cons
    rw [List.cons_append, codesNamed, codeNamed_of_some hcode, ih hknown, codesOf, codesOf,
      List.filterMap_cons_some hcode]
    cases codesNamed rest with
    | ok codes => rfl
    | error e => rfl

/-- **Validation goes on over entries that name rules** until one of these rules
is allowed. -/
theorem checkDenied_append {known : List String} (h : AllNamed known) (allowed : List Code)
    (rest : List String) : checkDenied allowed (known ++ rest) =
      match (codesOf known).find? (· ∈ allowed) with
      | some code => .error (.conflictingRule code)
      | none => checkDenied allowed rest := by
  -- The allowed codes are fixed: what was met before has no say in what follows.
  induction known with
  | nil => rfl
  | cons ident known ih =>
    obtain ⟨⟨code, hcode⟩, hknown⟩ := h.of_cons
    have hcodes : codesOf (ident :: known) = code :: codesOf known :=
      List.filterMap_cons_some hcode
    rw [List.cons_append, checkDenied, codeNamed_of_some hcode, hcodes]
    by_cases hallowed : code ∈ allowed
    · rw [List.find?_cons_of_pos (by simpa using hallowed)]
      exact if_pos hallowed
    · rw [List.find?_cons_of_neg (by simpa using hallowed), ← ih hknown]
      exact if_neg hallowed

theorem codesNamed_of_allNamed {entries : List String} (h : AllNamed entries) :
    codesNamed entries = .ok (codesOf entries) := by
  have happend := codesNamed_append h []
  rw [List.append_nil] at happend
  rw [happend, codesNamed, Except.map, List.append_nil]

theorem checkDenied_of_allNamed {entries : List String} (h : AllNamed entries)
    (allowed : List Code) : checkDenied allowed entries =
      match (codesOf entries).find? (· ∈ allowed) with
      | some code => .error (.conflictingRule code)
      | none => .ok () := by
  have happend := checkDenied_append h allowed []
  rwa [List.append_nil] at happend

theorem codesNamed_of_unknown {known : List String} {ident : String} (h : AllNamed known)
    (hident : codeOf? ident = none) (rest : List String) :
    codesNamed (known ++ ident :: rest) = .error (.unknownRule ident) := by
  rw [codesNamed_append h, codesNamed, codeNamed_of_none hident]
  rfl

theorem checkDenied_of_unknown {known : List String} {ident : String} (h : AllNamed known)
    (hident : codeOf? ident = none) (allowed : List Code) (rest : List String) :
    checkDenied allowed (known ++ ident :: rest) =
      match (codesOf known).find? (· ∈ allowed) with
      | some code => .error (.conflictingRule code)
      | none => .error (.unknownRule ident) := by
  rw [checkDenied_append h, checkDenied, codeNamed_of_none hident]
  rfl

/-! ## The two passes -/

/-- What both passes read before the denied rules. -/
structure Head where
  platform : Option Platform
  minimum : Option Deployment
  allow : List Code

/-- Reads what comes before the denied rules. -/
def readHead (c : Config) : Except ConfigError Head := do
  let platform ← optionally platformNamed c.analysis.platform
  let minimum ← optionally versionNamed c.analysis.minimumOSVersion
  let allow ← codesNamed c.rules.allow
  return ⟨platform, minimum, allow⟩

/-- The settings of an analysis that follow once the denied rules are read. -/
def settingsOf (c : Config) (assemblies : List String) (manifest : Option String) (head : Head)
    (deny : List Code) : Settings where
  platform := head.platform.getD (Platform.ofAssemblies assemblies)
  minimum := head.minimum.or (manifest.bind Deployment.ofManifest?)
  policy := c.analysis.conflictPolicy
  allow := head.allow
  deny := deny

theorem validate_eq (c : Config) :
    c.validate = c.readHead.bind fun head => checkDenied head.allow c.rules.deny := by
  show c.validate = c.readHead >>= fun head => checkDenied head.allow c.rules.deny
  simp only [validate, readHead, bind_assoc, pure_bind]

theorem resolve_eq (c : Config) (assemblies : List String) (manifest : Option String) :
    c.resolve assemblies manifest = c.readHead.bind fun head =>
      (codesNamed c.rules.deny).bind fun deny =>
        .ok (c.settingsOf assemblies manifest head deny) := by
  show c.resolve assemblies manifest = c.readHead >>= fun head =>
    codesNamed c.rules.deny >>= fun deny => pure (c.settingsOf assemblies manifest head deny)
  simp only [resolve, readHead, bind_assoc, pure_bind]
  rfl

/-- The allowed codes of the head are those that the entries name. -/
theorem allow_of_readHead {c : Config} {head : Head} (h : c.readHead = .ok head) :
    head.allow = codesOf c.rules.allow := by
  have hread : codesNamed c.rules.allow = .ok head.allow := by
    obtain ⟨platform, -, h⟩ := exists_of_bind_eq_ok h
    obtain ⟨minimum, -, h⟩ := exists_of_bind_eq_ok h
    obtain ⟨allow, hallow, h⟩ := exists_of_bind_eq_ok h
    rw [← Except.ok.inj h]
    exact hallow
  rcases allNamed_or_exists c.rules.allow with hnamed | ⟨known, ident, rest, heq, hknown, hident⟩
  · rw [codesNamed_of_allNamed hnamed] at hread
    exact (Except.ok.inj hread).symm
  · rw [heq, codesNamed_of_unknown hknown hident] at hread
    cases hread

/-- The settings without their denied rules. -/
def withoutDenied (c : Config) : Config := { c with rules := { c.rules with deny := [] } }

/-- The entries before the first that names no rule. -/
def knownPart (entries : List String) : List String :=
  entries.takeWhile fun ident => (codeOf? ident).isSome

/-- The first entry that names no rule. -/
def firstUnknown? (entries : List String) : Option String :=
  entries.find? fun ident => (codeOf? ident).isNone

/-- The code of the first entry that names an allowed rule. -/
def firstConflict? (allow entries : List String) : Option Code :=
  (codesOf entries).find? (· ∈ codesOf allow)

theorem knownPart_append {known : List String} {ident : String} (h : AllNamed known)
    (hident : codeOf? ident = none) (rest : List String) :
    knownPart (known ++ ident :: rest) = known := by
  rw [knownPart, List.takeWhile_append_of_pos h, List.takeWhile_cons_of_neg (by simp [hident]),
    List.append_nil]

theorem firstUnknown?_append {known : List String} {ident : String} (h : AllNamed known)
    (hident : codeOf? ident = none) (rest : List String) :
    firstUnknown? (known ++ ident :: rest) = some ident := by
  refine List.find?_eq_some_iff_append.2 ⟨by simp [hident], known, rest, rfl, fun i hi => ?_⟩
  obtain ⟨code, hcode⟩ := Option.isSome_iff_exists.1 (h i hi)
  rw [hcode]
  rfl

/-! ## Where the passes part -/

/-- **The outcomes of the two passes.** Both stop with one error before the
denied rules; or all of these are known, and then only validation can fail, at
the first conflict; or one is unknown, and then both fail, validation perhaps
earlier and at a conflict. -/
theorem passes (c : Config) (assemblies : List String) (manifest : Option String) :
    (∃ e, c.readHead = .error e ∧ c.resolve assemblies manifest = .error e ∧
      c.validate = .error e) ∨
    (∃ head, c.readHead = .ok head ∧ c.resolve assemblies manifest =
        .ok (c.settingsOf assemblies manifest head (codesOf c.rules.deny)) ∧
      c.validate = match firstConflict? c.rules.allow c.rules.deny with
        | some code => .error (.conflictingRule code)
        | none => .ok ()) ∨
    ∃ head ident, c.readHead = .ok head ∧ firstUnknown? c.rules.deny = some ident ∧
      c.resolve assemblies manifest = .error (.unknownRule ident) ∧
      c.validate = match firstConflict? c.rules.allow (knownPart c.rules.deny) with
        | some code => .error (.conflictingRule code)
        | none => .error (.unknownRule ident) := by
  rw [validate_eq, resolve_eq]
  cases hhead : c.readHead with
  | error e => exact Or.inl ⟨e, rfl, rfl, rfl⟩
  | ok head =>
    have hallow : head.allow = codesOf c.rules.allow := allow_of_readHead hhead
    right
    -- Both loops follow the list up to the first entry that names no rule.
    rcases allNamed_or_exists c.rules.deny with hnamed | ⟨known, ident, rest, heq, hknown, hident⟩
    · left
      refine ⟨head, rfl, ?_, ?_⟩
      · rw [codesNamed_of_allNamed hnamed]
        rfl
      · rw [firstConflict?, ← hallow]
        exact checkDenied_of_allNamed hnamed head.allow
    · right
      refine ⟨head, ident, rfl, ?_, ?_, ?_⟩
      · rw [heq, firstUnknown?_append hknown hident]
      · rw [heq, codesNamed_of_unknown hknown hident]
        rfl
      · rw [heq, knownPart_append hknown hident, firstConflict?, ← hallow]
        exact checkDenied_of_unknown hknown hident head.allow rest

/-- Without its denied rules settings can be resolved exactly if their head can
be read. -/
theorem exists_resolve_withoutDenied_iff (c : Config) (assemblies : List String)
    (manifest : Option String) :
    (∃ s, c.withoutDenied.resolve assemblies manifest = .ok s) ↔
      ∃ head, c.readHead = .ok head := by
  have hread : c.withoutDenied.readHead = c.readHead := rfl
  rw [resolve_eq, hread]
  cases c.readHead with
  | error e =>
    constructor
    · rintro ⟨s, h⟩
      cases h
    · rintro ⟨head, h⟩
      cases h
  | ok head => exact ⟨fun _ => ⟨head, rfl⟩, fun _ => ⟨_, rfl⟩⟩

theorem firstConflict?_eq_none_iff (allow entries : List String) :
    firstConflict? allow entries = none ↔ ∀ code ∈ codesOf allow, code ∉ codesOf entries := by
  rw [firstConflict?, List.find?_eq_none]
  constructor
  · intro h code hallow hdeny
    exact absurd hallow (by simpa using h code hdeny)
  · intro h code hdeny
    simpa using fun hallow => h code hallow hdeny

/-- Settings are accepted exactly if they can be resolved with no code both
allowed and denied. -/
theorem validate_eq_ok_iff (c : Config) (assemblies : List String) (manifest : Option String) :
    c.validate = .ok () ↔
      ∃ s, c.resolve assemblies manifest = .ok s ∧ ∀ code ∈ s.allow, code ∉ s.deny := by
  rcases c.passes assemblies manifest with
    ⟨e, -, hresolve, hvalidate⟩ | ⟨head, hhead, hresolve, hvalidate⟩ |
      ⟨head, ident, -, -, hresolve, hvalidate⟩
  · rw [hresolve, hvalidate]
    simp
  · have hdisjoint := firstConflict?_eq_none_iff c.rules.allow c.rules.deny
    rw [← allow_of_readHead hhead] at hdisjoint
    rw [hresolve, hvalidate]
    constructor
    · intro hok
      refine ⟨_, rfl, hdisjoint.1 ?_⟩
      cases hconflict : firstConflict? c.rules.allow c.rules.deny with
      | none => rfl
      | some code =>
        rw [hconflict] at hok
        cases hok
    · rintro ⟨s, hs, hs'⟩
      cases hs
      rw [hdisjoint.2 hs']
  · rw [hresolve, hvalidate]
    cases firstConflict? c.rules.allow (knownPart c.rules.deny) with
    | none => simp
    | some code => simp

end Config

/-- What is accepted can be resolved, so a run fails only where the document
with the settings cannot be loaded. -/
theorem Compilation.run_eq_error_iff (c : Compilation) (us : List UseSite) (e : ConfigError) :
    c.run us = .error e ↔ Config.load c.config = .error e := by
  have hrun : c.run us = (Config.load c.config).bind fun config =>
      (config.resolve c.assemblies c.manifest).bind fun s =>
        .ok (.ofSink (s.analyzeAll us .empty)) := by
    rw [run, settings]
    exact bind_assoc _ _ _
  rw [hrun]
  cases hload : Config.load c.config with
  | error e' => rw [Except.bind, Except.error.injEq, Except.error.injEq]
  | ok config =>
    have hvalid : config.validate = .ok () := by
      unfold Config.load at hload
      cases hdocument : Config.ofDocument? c.config with
      | none =>
        rw [hdocument] at hload
        cases hload
      | some config' =>
        rw [hdocument] at hload
        obtain ⟨_, hvalidate, h⟩ := exists_of_bind_eq_ok hload
        rw [← Except.ok.inj h]
        exact hvalidate
    obtain ⟨s, hresolve, -⟩ := (config.validate_eq_ok_iff c.assemblies c.manifest).1 hvalid
    rw [Except.bind, hresolve]
    constructor <;> intro h <;> cases h

namespace Config

/-- Settings that cannot be resolved are refused. If it is for a denied rule that
is unknown, a conflict before this rule is told instead. -/
theorem validate_of_resolve_eq_error {c : Config} {assemblies : List String}
    {manifest : Option String} {e : ConfigError} (h : c.resolve assemblies manifest = .error e) :
    ((∃ s, c.withoutDenied.resolve assemblies manifest = .ok s) →
      (∃ ident, firstUnknown? c.rules.deny = some ident ∧ e = .unknownRule ident) ∧
      c.validate = match firstConflict? c.rules.allow (knownPart c.rules.deny) with
        | some code => .error (.conflictingRule code)
        | none => .error e) ∧
    ((¬∃ s, c.withoutDenied.resolve assemblies manifest = .ok s) → c.validate = .error e) := by
  rw [exists_resolve_withoutDenied_iff]
  rcases c.passes assemblies manifest with
    ⟨e', hhead, hresolve, hvalidate⟩ | ⟨head, -, hresolve, -⟩ |
      ⟨head, ident, hhead, hident, hresolve, hvalidate⟩
  · rw [hresolve] at h
    cases h
    rw [hhead]
    refine ⟨?_, fun _ => hvalidate⟩
    rintro ⟨head, h⟩
    cases h
  · rw [hresolve] at h
    cases h
  · rw [hresolve] at h
    cases h
    exact ⟨fun _ => ⟨⟨ident, hident, rfl⟩, hvalidate⟩, fun hnone => absurd ⟨head, hhead⟩ hnone⟩

/-- Settings that can be resolved are refused for their first conflict only. -/
theorem conflict_of_validate_eq_error {c : Config} {assemblies : List String}
    {manifest : Option String} {s : Settings} {e : ConfigError}
    (hs : c.resolve assemblies manifest = .ok s) (he : c.validate = .error e) :
    ∃ code, firstConflict? c.rules.allow c.rules.deny = some code ∧
      e = .conflictingRule code := by
  rcases c.passes assemblies manifest with
    ⟨e', -, hresolve, -⟩ | ⟨head, -, -, hvalidate⟩ | ⟨head, ident, -, -, hresolve, -⟩
  · rw [hresolve] at hs
    cases hs
  · rw [hvalidate] at he
    cases hconflict : firstConflict? c.rules.allow c.rules.deny with
    | none =>
      rw [hconflict] at he
      cases he
    | some code =>
      rw [hconflict] at he
      exact ⟨code, rfl, (Except.error.inj he).symm⟩
  · rw [hresolve] at hs
    cases hs

/-- **Validation and resolution agree.** Settings are accepted exactly if they
can be resolved, whatever the host found, with no code both allowed and denied.
Where they cannot be resolved they are refused: over an unknown denied rule with
the same error, unless a known rule before it is allowed, which is then told
instead; over anything else with the same error. Where they can be resolved and
are refused, it is for the first denied rule that is allowed. And a run over a
document fails exactly, and with the same error, where the document cannot be
loaded. -/
theorem validate_resolve (c : Config) (assemblies : List String) (manifest : Option String) :
    (c.validate = .ok () ↔
      ∃ s, c.resolve assemblies manifest = .ok s ∧ ∀ code ∈ s.allow, code ∉ s.deny) ∧
    (∀ e, c.resolve assemblies manifest = .error e →
      ((∃ s, c.withoutDenied.resolve assemblies manifest = .ok s) →
        (∃ ident, firstUnknown? c.rules.deny = some ident ∧ e = .unknownRule ident) ∧
        c.validate = match firstConflict? c.rules.allow (knownPart c.rules.deny) with
          | some code => .error (.conflictingRule code)
          | none => .error e) ∧
      ((¬∃ s, c.withoutDenied.resolve assemblies manifest = .ok s) → c.validate = .error e)) ∧
    (∀ s e, c.resolve assemblies manifest = .ok s → c.validate = .error e →
      ∃ code, firstConflict? c.rules.allow c.rules.deny = some code ∧
        e = .conflictingRule code) ∧
    ∀ document us e, (Compilation.mk document assemblies manifest).run us = .error e ↔
      load document = .error e :=
  ⟨c.validate_eq_ok_iff assemblies manifest, fun _ => validate_of_resolve_eq_error,
    fun _ _ => conflict_of_validate_eq_error,
    fun document us e => Compilation.run_eq_error_iff ⟨document, assemblies, manifest⟩ us e⟩

/-- A rule that is allowed by its name and denied by its code in lower case, in
front of an entry that names no rule. -/
theorem validate_resolve_respelled :
    let c : Config := ⟨.standard, ["introduced-later"], ["deprecated", "xia1002", "newest"]⟩
    c.resolve [] none = .error (.unknownRule "newest") ∧
    (∃ s, c.withoutDenied.resolve [] none = .ok s) ∧
    c.validate = .error (.conflictingRule ⟨.apple, 1002⟩) := by
  intro c
  have hresolve : c.resolve [] none = .error (.unknownRule "newest") := rfl
  have hothers : ∃ s, c.withoutDenied.resolve [] none = .ok s := ⟨_, rfl⟩
  obtain ⟨-, herror, -, -⟩ := validate_resolve c [] none
  exact ⟨hresolve, hothers, ((herror _ hresolve).1 hothers).2⟩

end Config

end ApiAvailability
