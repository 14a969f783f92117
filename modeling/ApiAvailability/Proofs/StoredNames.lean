/-
Every slot keeps the platform that it names.

A slot carries the platform that it is for, although its position in a set says so
already, and messages show the platform that it carries. Whatever is combined into a
slot, under either policy, the platform of the slot stays (`nameAt_merge`). So no run
over attributes changes a name that is there (`nameAt_gather`), and a run from nothing
begins with slots that name the platforms of their positions.

A message about the availability is one of six texts with the labels of one or two
slots in them (`Advisory.Wording`). A label begins with the platform that its slot
names, and behind it comes a version or a word for an architecture, and neither has a
letter with which the name of a platform ends (`labelledBy_fullName`). So the labels of
a record that was gathered name the platform of the analysis and no other one.
-/
import ApiAvailability.Attribute.Binding
import ApiAvailability.Proofs.PlatformView
import ApiAvailability.Proofs.SiteGathering
import ApiAvailability.Proofs.UseReport

set_option autoImplicit false

namespace ApiAvailability

/-! ## Names in sets -/

namespace SlotSet

/-- The platform that the slot in the position of a platform names. -/
def nameAt (t : SlotSet) (p : Platform) : Option Platform := (t.get p).map Slot.platform

theorem nameAt_merge (policy : ConflictPolicy) (t u : SlotSet) (p : Platform) :
    (t.merge policy u).nameAt p = t.nameAt p := by
  cases p with
  | none => rfl
  | macOS => exact congrArg some (policy.platform_combine _ _)
  | iOS => exact congrArg some (policy.platform_combine _ _)
  | watchOS => exact congrArg some (policy.platform_combine _ _)
  | tvOS => exact congrArg some (policy.platform_combine _ _)

theorem nameAt_foldl_merge (policy : ConflictPolicy) (l : List SlotSet) (t : SlotSet)
    (p : Platform) : (l.foldl (merge policy) t).nameAt p = t.nameAt p := by
  induction l generalizing t with
  | nil => rfl
  | cons u l ih => rw [List.foldl_cons, ih, nameAt_merge]

theorem namesMatch_of_nameAt_eq {t u : SlotSet} (h : ∀ p, t.nameAt p = u.nameAt p)
    (hu : u.NamesMatch) : t.NamesMatch := by
  intro p s hs
  have hname := h p
  rw [nameAt, nameAt, hs, Option.map_some] at hname
  obtain ⟨s', hs', heq⟩ := Option.map_eq_some_iff.1 hname.symm
  rw [← heq]
  exact hu p s' hs'

theorem namesMatch_empty : empty.NamesMatch := by
  intro p s hs
  cases p <;> cases hs <;> rfl

end SlotSet

/-! ## Names in records -/

namespace Record

/-- Every slot of every kind names the platform of its position. -/
def NamesMatch (r : Record) : Prop := ∀ k, (r.facts k).NamesMatch

/-- **No run over attributes changes a name.** -/
theorem nameAt_gather (policy : ConflictPolicy) (record : Option Record) (l : List Attribute)
    (k : FactKind) (p : Platform) : (((gather policy record l).getD .empty).facts k).nameAt p =
      ((record.getD .empty).facts k).nameAt p := by
  rw [facts_gather, SlotSet.nameAt_foldl_merge]

theorem namesMatch_gather (policy : ConflictPolicy) (l : List Attribute) {r : Record}
    (h : gather policy none l = some r) : r.NamesMatch := by
  intro k
  have hempty : (Record.empty.facts k).NamesMatch := by
    cases k <;> exact SlotSet.namesMatch_empty
  refine SlotSet.namesMatch_of_nameAt_eq (fun p => ?_) hempty
  have hname := nameAt_gather policy none l k p
  rwa [h] at hname

end Record

namespace UseSite

variable {policy : ConflictPolicy} {u : UseSite} {c : Collected} {r : Record}

theorem exists_gather_of_collectOuter_eq_ok (h : u.collectOuter policy = .ok c)
    (hr : c.record = some r) : ∃ l, Record.gather policy none l = some r := by
  rw [collectOuter] at h
  cases htype : u.symbol.declaringType with
  | none =>
    rw [htype] at h
    cases h
    cases hr
  | some type =>
    simp only [htype] at h
    cases herror : type.collectError? with
    | some e =>
      rw [herror] at h
      cases h
    | none =>
      rw [herror] at h
      cases h
      exact ⟨type.attributes, (Option.filter_eq_some_iff.1 hr).1⟩

/-- Whatever is gathered around a use was gathered from nothing: from the own attributes, or
from those of the declaring type. -/
theorem exists_gather_of_collect_eq_ok (h : u.collect policy = .ok c) (hr : c.record = some r) :
    ∃ l, Record.gather policy none l = some r := by
  rw [collect_eq] at h
  cases herror : u.ownSymbols.findSome? Symbol.collectError? with
  | some e =>
    rw [herror] at h
    cases h
  | none =>
    rw [herror] at h
    by_cases hspecified : (u.ownRecord policy).any Record.isSpecified
    · simp only [if_pos hspecified] at h
      cases h
      exact ⟨u.ownAttributes, hr⟩
    · simp only [if_neg hspecified] at h
      exact exists_gather_of_collectOuter_eq_ok h hr

theorem namesMatch_of_collect_eq_ok (h : u.collect policy = .ok c) (hr : c.record = some r) :
    r.NamesMatch := by
  obtain ⟨l, hl⟩ := exists_gather_of_collect_eq_ok h hr
  exact Record.namesMatch_gather policy l hl

end UseSite

/-! ## Labels -/

namespace Platform

/-- The label begins with the name of the platform, and no other platform is named in it. -/
def LabelledBy (p : Platform) (label : String) : Prop :=
  (∃ rest, label = p.displayName ++ rest) ∧
    ∀ q : Platform, q.displayName.toList <:+: label.toList → q = p

theorem eq_of_displayName_infix {p q : Platform}
    (h : q.displayName.toList <:+: p.displayName.toList) : q = p := by
  cases p <;> cases q <;> simp [displayName, List.infix_cons_iff] at h ⊢

theorem exists_displayName_eq (p : Platform) :
    ∃ cs c, p.displayName.toList = cs ++ [c] ∧ (c = 'S' ∨ c = 'e') := by
  cases p with
  | none => exact ⟨['N', 'o', 'n'], 'e', by decide, Or.inr rfl⟩
  | macOS => exact ⟨['m', 'a', 'c', 'O'], 'S', by decide, Or.inl rfl⟩
  | iOS => exact ⟨['i', 'O'], 'S', by decide, Or.inl rfl⟩
  | watchOS => exact ⟨['w', 'a', 't', 'c', 'h', 'O'], 'S', by decide, Or.inl rfl⟩
  | tvOS => exact ⟨['t', 'v', 'O'], 'S', by decide, Or.inl rfl⟩

/-- Characters with which no display name ends do not make another name of the one before
them. -/
theorem eq_of_displayName_infix_append {p q : Platform} {rest : List Char}
    (hrest : 'S' ∉ rest ∧ 'e' ∉ rest)
    (h : q.displayName.toList <:+: p.displayName.toList ++ rest) : q = p := by
  obtain ⟨before, after, heq⟩ := h
  refine eq_of_displayName_infix ?_
  rcases List.append_eq_append_iff.1 heq with ⟨cs, hp, -⟩ | ⟨cs, hq, hcs⟩
  · exact ⟨before, cs, hp.symm⟩
  · -- The name would end behind the other one, among the characters that end no name.
    obtain ⟨start, c, hname, hc⟩ := q.exists_displayName_eq
    rcases List.eq_nil_or_concat cs with rfl | ⟨cs', d, rfl⟩
    · exact ⟨before, [], by rw [hq, List.append_nil, List.append_nil]⟩
    · have hmem : d ∈ rest := by simp [hcs]
      rw [hname, ← List.append_assoc, List.concat_eq_append, ← List.append_assoc] at hq
      have hlast : c = d := (List.append_inj' hq rfl).2 |> List.singleton_inj.1
      rw [← hlast] at hmem
      rcases hc with rfl | rfl
      · exact absurd hmem hrest.1
      · exact absurd hmem hrest.2

end Platform

namespace Slot

/-- Behind the platform there is no more than a version or a word for an architecture. -/
theorem exists_fullName_eq (s : Slot) : ∃ rest : String,
    s.fullName = s.platform.displayName ++ rest ∧ 'S' ∉ rest.toList ∧ 'e' ∉ rest.toList := by
  unfold fullName
  dsimp only
  split
  · refine ⟨" " ++ Text.decimal s.major.toNat ++ "." ++ Text.decimal s.minor.toNat,
      by simp only [String.append_assoc], ?_, ?_⟩
    · simp [Text.not_mem_decimal _ (c := 'S') rfl]
    · simp [Text.not_mem_decimal _ (c := 'e') rfl]
  · split
    · exact ⟨" 32-bit", rfl, by decide, by decide⟩
    · split
      · exact ⟨" 64-bit", rfl, by decide, by decide⟩
      · exact ⟨"", (String.append_empty ..).symm, by decide, by decide⟩

/-- **A label names one platform,** which is that of its slot. -/
theorem labelledBy_fullName (s : Slot) : s.platform.LabelledBy s.fullName := by
  obtain ⟨rest, hname, hrest⟩ := s.exists_fullName_eq
  refine ⟨⟨rest, hname⟩, fun q hq => ?_⟩
  rw [hname, String.toList_append] at hq
  exact Platform.eq_of_displayName_infix_append hrest hq

end Slot

/-! ## Messages -/

/-- The texts about the availability of an API, with the labels that stand in them. -/
inductive Advisory.Wording : AdvisoryKind → List String → String → Prop
  | unavailable (label : String) :
      Wording .deprecatedOrObsoleted [label] ("was made unavailable in " ++ label)
  | deprecatedAndObsoleted (label label' : String) :
      Wording .deprecatedOrObsoleted [label, label'] ("was deprecated in " ++ label ++
        " and obsoleted (might be removed) in " ++ label')
  | obsoleted (label : String) :
      Wording .deprecatedOrObsoleted [label] ("was obsoleted (might be removed) in " ++ label)
  | deprecated (label : String) :
      Wording .deprecatedOrObsoleted [label] ("was deprecated in " ++ label)
  | introduced (label : String) :
      Wording .introducedLater [label] ("is only available on " ++ label ++ " or newer")
  | introduced64 (label : String) :
      Wording .introducedLater [label] ("is only available on " ++ label ++ " or newer" ++
        " and requires a 64-bit architecture")

theorem Advisory.wording_introductionText (s : Slot) :
    Wording .introducedLater [s.fullName] (introductionText s) := by
  show Wording .introducedLater [s.fullName] ("is only available on " ++ s.fullName ++
    " or newer" ++ if requires64 s then " and requires a 64-bit architecture" else "")
  by_cases h64 : requires64 s
  · rw [if_pos h64]
    exact .introduced64 _
  · rw [if_neg h64, String.append_empty]
    exact .introduced _

namespace PlatformView

theorem exists_wording_of_withdrawal? {v : PlatformView} {text : String}
    (h : v.withdrawal? = some text) :
    ∃ kinds : List FactKind, Advisory.Wording .deprecatedOrObsoleted
      (kinds.map fun k => (v.slot k).fullName) text := by
  unfold withdrawal? at h
  -- Each row of the table has a wording of its own.
  split at h
  · cases h
    exact ⟨[.unavailable], .unavailable _⟩
  · cases h
    exact ⟨[.deprecated, .obsoleted], .deprecatedAndObsoleted _ _⟩
  · cases h
    exact ⟨[.obsoleted], .obsoleted _⟩
  · cases h
    exact ⟨[.deprecated], .deprecated _⟩
  · cases h

theorem exists_wording_of_tooNew? {v : PlatformView} {minimum : Option Deployment} {text : String}
    (h : v.tooNew? minimum = some text) :
    ∃ kinds : List FactKind, Advisory.Wording .introducedLater
      (kinds.map fun k => (v.slot k).fullName) text := by
  cases minimum with
  | none => cases h
  | some d =>
    rw [tooNew?, Option.ite_none_right_eq_some] at h
    rw [← Option.some.inj h.2]
    exact ⟨[.introduced], Advisory.wording_introductionText v.introduced⟩

theorem exists_wording {v : PlatformView} {minimum : Option Deployment} {a : Advisory}
    (h : v.advisory? minimum = some a) : ∃ (kinds : List FactKind) (text : String),
      Advisory.Wording a.kind (kinds.map fun k => (v.slot k).fullName) text ∧
      a.message = v.withMessage text := by
  unfold advisory? at h
  split at h
  · next text hwithdrawal =>
    cases h
    obtain ⟨kinds, hwording⟩ := exists_wording_of_withdrawal? hwithdrawal
    exact ⟨kinds, text, hwording, rfl⟩
  · next text _ htooNew =>
    cases h
    obtain ⟨kinds, hwording⟩ := exists_wording_of_tooNew? htooNew
    exact ⟨kinds, text, hwording, rfl⟩
  · cases h

end PlatformView

/-- About a record whose names match, only the platform in question is named. -/
theorem Advisory.exists_wording_of_namesMatch {r : Record} (hnames : r.NamesMatch)
    {minimum : Option Deployment} {p : Platform} {a : Advisory}
    (ha : advise? (some r) minimum p = some a) : ∃ labels text, Wording a.kind labels text ∧
      (∃ message : Option String, a.message = text ++ message.elim "" (".\n " ++ ·)) ∧
      ∀ label ∈ labels, p.LabelledBy label := by
  rw [advise?_eq, Option.bind_some] at ha
  obtain ⟨v, hview, hadvisory⟩ := Option.bind_eq_some_iff.1 ha
  obtain ⟨kinds, text, hwording, hmessage⟩ := PlatformView.exists_wording hadvisory
  refine ⟨_, text, hwording, ⟨v.message, ?_⟩, ?_⟩
  · rw [hmessage, PlatformView.withMessage]
    cases v.message with
    | none => rw [Option.elim_none, String.append_empty]
    | some message => exact String.append_assoc
  · intro label hlabel
    obtain ⟨k, -, rfl⟩ := List.mem_map.1 hlabel
    have hplatform : (v.slot k).platform = p :=
      hnames k p (v.slot k) (((r.viewFor?_eq_some_iff p v).1 hview).1 k)
    rw [← hplatform]
    exact (v.slot k).labelledBy_fullName

namespace Settings

/-- **Messages about the availability name the platform of the analysis alone.** -/
theorem exists_wording_of_mem_diagnosticsFor {s : Settings} {u : UseSite} {d : Diagnostic}
    (hd : d ∈ s.diagnosticsFor u) (hcode : d.code ≠ AdvisoryKind.advice.code) :
    ∃ kind labels text, d.code = kind.code ∧ Advisory.Wording kind labels text ∧
      (∃ message : Option String, d.message =
        "'" ++ u.symbol.name ++ "' " ++ (text ++ message.elim "" (".\n " ++ ·))) ∧
      ∀ label ∈ labels, s.platform.LabelledBy label := by
  rw [diagnosticsFor_eq_append, List.mem_append] at hd
  rcases hd with hadvice | havailability
  · obtain ⟨text, hreport⟩ := exists_report_of_mem_adviceFor hadvice
    exact absurd (code_of_report hreport) hcode
  · obtain ⟨c, a, hc, ha, hreport⟩ :=
      exists_report_of_availabilityFor (Option.mem_toList.1 havailability)
    -- Of an absent record nothing is said.
    obtain ⟨r, hr⟩ : ∃ r, c.record = some r := by
      cases hrecord : c.record with
      | none =>
        rw [hrecord] at ha
        cases ha
      | some r => exact ⟨r, rfl⟩
    rw [hr] at ha
    have hnames := UseSite.namesMatch_of_collect_eq_ok (UseSite.collect_of_gathered? hc) hr
    obtain ⟨labels, text, hwording, ⟨message, hmessage⟩, hlabels⟩ :=
      Advisory.exists_wording_of_namesMatch hnames ha
    refine ⟨a.kind, labels, text, code_of_report hreport, hwording, ⟨message, ?_⟩, hlabels⟩
    rw [message_of_report hreport, Advisory.textFor, hmessage]

end Settings

/-! ## Together -/

/-- **Names follow positions.** Every slot of a record that is gathered from nothing, or around
a use, names the platform of its position, and no run over attributes changes a name that is
there. So what is reported as too new, or as unavailable, deprecated or obsoleted, is one of
six texts behind the name of the symbol, perhaps with a message of the author after it, and
each label in it names the platform of the analysis and no other one. -/
theorem names_follow_positions :
    (∀ policy l r, Record.mergeAttributes policy none l = .ok (some r) → r.NamesMatch) ∧
    (∀ policy (u : UseSite) c r, u.collect policy = .ok c → c.record = some r → r.NamesMatch) ∧
    (∀ policy r l merged, Record.mergeAttributes policy (some r) l = .ok merged →
      ∃ r', merged = some r' ∧ ∀ k p, (r'.facts k).nameAt p = (r.facts k).nameAt p) ∧
    ∀ (s : Settings) (u : UseSite), ∀ d ∈ s.diagnosticsFor u,
      d.code = ⟨.apple, 1002⟩ ∨ d.code = ⟨.apple, 1003⟩ →
        ∃ kind labels text, d.code = kind.code ∧ Advisory.Wording kind labels text ∧
          (∃ message : Option String, d.message =
            "'" ++ u.symbol.name ++ "' " ++ (text ++ message.elim "" (".\n " ++ ·))) ∧
          ∀ label ∈ labels, s.platform.LabelledBy label := by
  refine ⟨fun policy l r h => ?_, fun policy u c r h hr => UseSite.namesMatch_of_collect_eq_ok h hr,
    fun policy r l merged h => ?_, fun s u d hd hcode => ?_⟩
  · exact Record.namesMatch_gather policy l (Record.gather_of_mergeAttributes_eq_ok h).symm
  · have hmerged := Record.gather_of_mergeAttributes_eq_ok h
    have hsome : merged.isSome := by
      rw [hmerged, Record.isSome_gather]
      rfl
    obtain ⟨r', rfl⟩ := Option.isSome_iff_exists.1 hsome
    refine ⟨r', rfl, fun k p => ?_⟩
    have hname := Record.nameAt_gather policy (some r) l k p
    rwa [← hmerged] at hname
  · refine Settings.exists_wording_of_mem_diagnosticsFor hd fun hadvice => ?_
    rw [hadvice] at hcode
    exact absurd hcode (by decide)

/-- A slot in the position of iOS that names tvOS goes on to do so. Without it the same
attributes are about iOS and macOS, and on iOS the use is too new. -/
theorem names_follow_positions_misnamed :
    let l := [Attribute.ios 10 0, .single .deprecated .macOS 10 9 .every none]
    let made : Record :=
      { Record.empty with
        introduced := .single ⟨.iOS, .unstated, 10, 0, 0⟩
        deprecated := .single (.ofVersion .macOS 10 9) }
    let misnamed : Record :=
      { Record.empty with introduced := { SlotSet.empty with iOS := .ofVersion .tvOS 9 0 } }
    let kept : Record :=
      { made with introduced := { SlotSet.empty with iOS := .ofVersion .tvOS 11 0 } }
    let u : UseSite :=
      ⟨{ Symbol.plain "symbol" .method with attributes := l }, .invocation, .read, none⟩
    let s : Settings := ⟨.iOS, some ⟨9, 0, 0⟩, .bitwiseOr, [], []⟩
    let d := Diagnostic.advisory .introducedLater "'symbol' is only available on iOS 10.0 or newer"
    (Record.mergeAttributes .bitwiseOr none l = .ok (some made) ∧ made.NamesMatch) ∧
    (u.collect .bitwiseOr = .ok ⟨some made, []⟩ ∧ made.NamesMatch) ∧
    (Record.mergeAttributes .bitwiseOr (some misnamed) l = .ok (some kept) ∧
      ∃ r', some kept = some r' ∧ ∀ k p, (r'.facts k).nameAt p = (misnamed.facts k).nameAt p) ∧
    d ∈ s.diagnosticsFor u ∧
    ∃ kind labels text, d.code = AdvisoryKind.code kind ∧ Advisory.Wording kind labels text ∧
      (∃ message : Option String, d.message =
        "'" ++ u.symbol.name ++ "' " ++ (text ++ message.elim "" (".\n " ++ ·))) ∧
      ∀ label ∈ labels, s.platform.LabelledBy label := by
  intro l made misnamed kept u s d
  have hvalid : ∀ a ∈ l, a.unknownByte? = none := by decide
  have hmade : Record.mergeAttributes .bitwiseOr none l = .ok (some made) := by
    rw [Record.mergeAttributes_eq_ok hvalid]
    exact congrArg Except.ok (by decide)
  have hcollect : u.collect .bitwiseOr = .ok ⟨some made, []⟩ :=
    UseSite.collect_of_gathered? (by decide)
  have hkept : Record.mergeAttributes .bitwiseOr (some misnamed) l = .ok (some kept) := by
    rw [Record.mergeAttributes_eq_ok hvalid]
    exact congrArg Except.ok (by decide)
  have hd : d ∈ s.diagnosticsFor u := by decide
  obtain ⟨hfresh, haround, hstays, hmessages⟩ := names_follow_positions
  exact ⟨⟨hmade, hfresh _ _ _ hmade⟩, ⟨hcollect, haround _ _ _ _ hcollect rfl⟩,
    ⟨hkept, hstays _ _ _ _ hkept⟩, hd, hmessages s u d hd (Or.inl rfl)⟩

end ApiAvailability
