/-
What the summary of a record shows.

The summary lists a kind where a slot of the kind states something, and shows the slot by
constants for its version and for the architectures to which it is limited. A slot can
state something for which there is no constant: a minor part without a major one, or a
mask that is the full one or has neither of the two named bits (`Slot.isShown`). Such a
slot is left out of the text of its kind, which is empty if the kind has no other.

So the text names a platform exactly where the slot for it is shown. That nothing else is
named is a matter of where the letter P can stand: every constant begins with it and has
it nowhere else, and between the constants there are a bar and blanks, which are in no
name (`infix_intercalate_iff`).
-/
import ApiAvailability.Proofs.StoredNames

set_option autoImplicit false

namespace ApiAvailability

/-! ## Words in joined texts -/

section

variable {α : Type} {w l r : List α}

/-- A word that does not have a character does not reach across it. -/
theorem infix_append_cons_iff {c : α} (hc : c ∉ w) :
    w <:+: l ++ c :: r ↔ w <:+: l ∨ w <:+: r := by
  have hstart : ∀ v, c ∉ v → v <+: c :: r → v = [] := by
    intro v hv h
    rcases List.prefix_cons_iff.1 h with hnil | ⟨t, rfl, -⟩
    · exact hnil
    · exact absurd (List.mem_cons_self ..) hv
  constructor
  · intro h
    rcases List.infix_append_iff.1 h with hl | hcr | ⟨u, v, rfl, hu, hv⟩
    · exact Or.inl hl
    · rcases List.infix_cons_iff.1 hcr with hp | hr
      · rw [hstart w hc hp]
        exact Or.inl List.nil_infix
      · exact Or.inr hr
    · -- What reaches across the character would begin with it.
      rw [hstart v (fun hmem => hc (List.mem_append_right u hmem)) hv, List.append_nil]
      exact Or.inl hu.isInfix
  · rintro (hl | hr)
    · exact hl.trans (List.prefix_append l (c :: r)).isInfix
    · exact hr.trans ((List.suffix_cons c r).trans (List.suffix_append l (c :: r))).isInfix

theorem infix_append_append_iff {sep : List α} (hne : sep ≠ []) (hsep : ∀ c ∈ sep, c ∉ w) :
    w <:+: l ++ (sep ++ r) ↔ w <:+: l ∨ w <:+: r := by
  induction sep generalizing l with
  | nil => exact absurd rfl hne
  | cons c sep ih =>
    have hc := hsep c (List.mem_cons_self ..)
    rw [List.cons_append, infix_append_cons_iff hc]
    by_cases hlast : sep = []
    · rw [hlast, List.nil_append]
    · -- What is left of the separator has nothing before it.
      have hrest := ih (l := []) hlast fun d hd => hsep d (List.mem_cons_of_mem c hd)
      rw [List.nil_append] at hrest
      rw [hrest]
      constructor
      · rintro (hl | hnil | hr)
        · exact Or.inl hl
        · exact Or.inl (hnil.trans List.nil_infix)
        · exact Or.inr hr
      · rintro (hl | hr)
        · exact Or.inl hl
        · exact Or.inr (Or.inr hr)

/-- **A word in joined pieces is in one of them,** if it shares no character with what
stands between them. -/
theorem infix_intercalate_iff {sep : List α} (hne : sep ≠ []) (hsep : ∀ c ∈ sep, c ∉ w)
    (hw : w ≠ []) (pieces : List (List α)) :
    w <:+: sep.intercalate pieces ↔ ∃ piece ∈ pieces, w <:+: piece := by
  induction pieces with
  | nil =>
    rw [List.intercalate_nil, List.infix_nil]
    simp [hw]
  | cons piece pieces ih =>
    cases pieces with
    | nil => simp
    | cons next pieces =>
      rw [List.intercalate_cons_cons, List.append_assoc, infix_append_append_iff hne hsep, ih]
      simp

end

/-! ## Constants -/

namespace Platform

/-- The constants of the platform are mentioned in the text. -/
def NamedIn (p : Platform) (text : String) : Prop :=
  ("Platform." ++ p.displayName).toList <:+: text.toList

theorem not_namedIn_empty (p : Platform) : ¬p.NamedIn "" := by
  intro h
  rw [NamedIn, String.toList_append] at h
  have hnil := List.infix_nil.1 h
  exact absurd (List.append_eq_nil_iff.1 hnil).1 (by decide)

/-- A constant names its platform and no other one. -/
theorem namedIn_constant_iff {p q : Platform} {rest : String}
    (hrest : 'P' ∉ rest.toList ∧ 'S' ∉ rest.toList ∧ 'e' ∉ rest.toList) :
    q.NamedIn ("Platform." ++ p.displayName ++ rest) ↔ q = p := by
  have hdot : "Platform.".toList = 'P' :: "latform.".toList := by decide
  have hname : 'P' ∉ p.displayName.toList := by
    cases p <;> decide
  simp only [NamedIn, String.toList_append, List.append_assoc]
  constructor
  · intro h
    rw [hdot, List.cons_append, List.cons_append] at h
    rcases List.infix_cons_iff.1 h with hstart | hinfix
    · -- At the start only the name is left to compare.
      rw [List.cons_prefix_cons, List.prefix_append_right_inj] at hstart
      exact eq_of_displayName_infix_append hrest.2 hstart.2.isInfix
    · have hmem : 'P' ∈ "latform.".toList ++ (p.displayName.toList ++ rest.toList) :=
        hinfix.mem (List.mem_cons_self ..)
      rcases List.mem_append.1 hmem with hword | hmem
      · exact absurd hword (by decide)
      · rcases List.mem_append.1 hmem with hmem | hmem
        · exact absurd hmem hname
        · exact absurd hmem hrest.1
  · rintro rfl
    rw [← List.append_assoc]
    exact (List.prefix_append _ _).isInfix

/-- In joined texts a platform is named if it is named in one of them. -/
theorem namedIn_intercalate_iff (p : Platform) (texts : List String) :
    p.NamedIn (" | ".intercalate texts) ↔ ∃ text ∈ texts, p.NamedIn text := by
  have hne : ("Platform." ++ p.displayName).toList ≠ [] := by
    cases p <;> decide
  have hblank : ' ' ∉ ("Platform." ++ p.displayName).toList := by
    cases p <;> decide
  have hbar : '|' ∉ ("Platform." ++ p.displayName).toList := by
    cases p <;> decide
  have hsep : ∀ c ∈ [' ', '|', ' '], c ∉ ("Platform." ++ p.displayName).toList := by
    simp only [List.forall_mem_cons, hblank, hbar]
    simp
  have htoList : " | ".toList = [' ', '|', ' '] := by decide
  rw [NamedIn, String.toList_intercalate, htoList,
    infix_intercalate_iff (by simp) hsep hne]
  simp only [List.mem_map]
  constructor
  · rintro ⟨-, ⟨text, htext, rfl⟩, h⟩
    exact ⟨text, htext, h⟩
  · rintro ⟨text, htext, h⟩
    exact ⟨_, ⟨text, htext, rfl⟩, h⟩

end Platform

/-! ## Slots in the summary -/

/-- The architectures for which there are constants, with the words that stand there. -/
def Architecture.labels : List (Architecture × String) :=
  [(arch32, "Arch32"), (arch64, "Arch64")]

namespace Slot

/-- Whether there is a constant for something that the slot states. -/
def isShown (s : Slot) : Bool :=
  s.major ≠ 0 ||
    (s.arch ≠ .every && (s.arch.contains .arch32 || s.arch.contains .arch64))

/-- The constants for what the slot states. -/
def constants (s : Slot) : List String := s.versionConstant ++ s.archConstants

theorem mem_versionConstant_iff (s : Slot) (c : String) : c ∈ s.versionConstant ↔
    s.major ≠ 0 ∧ c = "Platform." ++ s.platform.displayName ++ "_" ++
      Text.decimal s.major.toNat ++ "_" ++ Text.decimal s.minor.toNat ++
      (if s.subminor > 0 then "_" ++ Text.decimal s.subminor.toNat else "") := by
  rw [versionConstant]
  by_cases hzero : s.major = 0
  · simp [hzero]
  · have hpos : s.major > 0 := UInt8.pos_iff_ne_zero.2 hzero
    rw [if_pos hpos, List.mem_singleton]
    exact (and_iff_right hzero).symm

theorem mem_archConstants_iff (s : Slot) (c : String) : c ∈ s.archConstants ↔
    ∃ b ∈ Architecture.labels, (s.arch ≠ .every ∧ s.arch.contains b.1) ∧
      c = "Platform." ++ s.platform.displayName ++ "_" ++ b.2 := by
  -- The mask is read before it is looked at, which makes no difference to its limits.
  have hbits : ∀ b ∈ Architecture.labels, b.1.bits ≠ 0 := by decide
  have hlimited : ∀ b ∈ Architecture.labels, (s.arch ≠ .every ∧ s.arch.contains b.1 ↔
      s.arch.effective ≠ .every ∧ s.arch.effective.contains b.1) :=
    fun b hb => (s.arch.effective_limited_iff (hbits b hb)).symm
  unfold archConstants
  dsimp only
  by_cases hevery : s.arch.effective = .every
  · rw [if_pos hevery]
    refine iff_of_false List.not_mem_nil ?_
    rintro ⟨b, hb, hstated, -⟩
    exact ((hlimited b hb).1 hstated).1 hevery
  · rw [if_neg hevery, List.mem_filterMap]
    refine exists_congr fun b => and_congr_right fun hb => ?_
    rw [hlimited b hb, Option.ite_none_right_eq_some, Option.some.injEq, and_iff_right hevery,
      eq_comm (a := c)]

theorem isShown_iff (s : Slot) : s.isShown ↔ ∃ c, c ∈ s.constants := by
  simp only [isShown, constants, List.mem_append, Bool.or_eq_true, Bool.and_eq_true,
    decide_eq_true_eq, mem_versionConstant_iff, mem_archConstants_iff]
  constructor
  · rintro (hmajor | ⟨hevery, h32 | h64⟩)
    · exact ⟨_, Or.inl ⟨hmajor, rfl⟩⟩
    · exact ⟨_, Or.inr ⟨(.arch32, "Arch32"), by decide, ⟨hevery, h32⟩, rfl⟩⟩
    · exact ⟨_, Or.inr ⟨(.arch64, "Arch64"), by decide, ⟨hevery, h64⟩, rfl⟩⟩
  · rintro ⟨c, ⟨hmajor, -⟩ | ⟨b, hb, ⟨hevery, hcontains⟩, -⟩⟩
    · exact Or.inl hmajor
    · refine Or.inr ⟨hevery, ?_⟩
      have hlabel : b = (.arch32, "Arch32") ∨ b = (.arch64, "Arch64") := by
        simpa [Architecture.labels] using hb
      rcases hlabel with rfl | rfl
      · exact Or.inl hcontains
      · exact Or.inr hcontains

theorem isSpecified_of_isShown {s : Slot} (h : s.isShown) : s.isSpecified := by
  rw [isShown, Bool.or_eq_true] at h
  rcases h with hmajor | hlimited
  · rw [decide_eq_true_eq] at hmajor
    simp [isSpecified, hmajor]
  · have hbits : s.arch.bits ≠ 0 := by
      intro hzero
      simp [Architecture.contains, Architecture.arch32, Architecture.arch64, hzero] at hlimited
    simp [isSpecified, hbits]

/-- A constant is made for the platform that the slot names. -/
theorem exists_constant_eq {s : Slot} {c : String} (hc : c ∈ s.constants) :
    ∃ rest : String, c = "Platform." ++ s.platform.displayName ++ rest ∧
      'P' ∉ rest.toList ∧ 'S' ∉ rest.toList ∧ 'e' ∉ rest.toList := by
  rcases List.mem_append.1 hc with hversion | harch
  · obtain ⟨-, rfl⟩ := (mem_versionConstant_iff s c).1 hversion
    have hletter {d : Char} (hd : d.isDigit = false) (hbar : d ≠ '_') :
        d ∉ ("_" ++ Text.decimal s.major.toNat ++ "_" ++ Text.decimal s.minor.toNat ++
          (if s.subminor > 0 then "_" ++ Text.decimal s.subminor.toNat else "")).toList := by
      by_cases hsubminor : s.subminor > 0
      · simp [hsubminor, Text.not_mem_decimal _ hd, hbar]
      · simp [hsubminor, Text.not_mem_decimal _ hd, hbar]
    refine ⟨_, by simp only [String.append_assoc], hletter (d := 'P') rfl (by decide),
      hletter (d := 'S') rfl (by decide), hletter (d := 'e') rfl (by decide)⟩
  · obtain ⟨b, hb, -, rfl⟩ := (mem_archConstants_iff s c).1 harch
    have hletters : ∀ b ∈ Architecture.labels, 'P' ∉ ("_" ++ b.2).toList ∧
        'S' ∉ ("_" ++ b.2).toList ∧ 'e' ∉ ("_" ++ b.2).toList := by
      decide
    exact ⟨"_" ++ b.2, String.append_assoc .., hletters b hb⟩

theorem display_of_not_isShown {s : Slot} (h : ¬s.isShown) : s.display = "" := by
  have hnil : s.constants = [] := List.eq_nil_iff_forall_not_mem.2 fun c hc =>
    h (s.isShown_iff.2 ⟨c, hc⟩)
  unfold display
  rw [constants] at hnil
  rw [hnil]
  exact ite_self ""

/-- **The text of a slot** names the platform of the slot if anything is shown. -/
theorem namedIn_display_iff (s : Slot) (p : Platform) :
    p.NamedIn s.display ↔ s.isShown ∧ s.platform = p := by
  by_cases hshown : s.isShown
  · rw [display, if_pos (isSpecified_of_isShown hshown), Platform.namedIn_intercalate_iff,
      and_iff_right hshown]
    constructor
    · rintro ⟨c, hc, hp⟩
      obtain ⟨rest, rfl, hrest⟩ := exists_constant_eq hc
      exact ((Platform.namedIn_constant_iff hrest).1 hp).symm
    · rintro rfl
      obtain ⟨c, hc⟩ := s.isShown_iff.1 hshown
      obtain ⟨rest, rfl, hrest⟩ := exists_constant_eq hc
      exact ⟨_, hc, (Platform.namedIn_constant_iff hrest).2 rfl⟩
  · rw [display_of_not_isShown hshown]
    exact iff_of_false p.not_namedIn_empty fun h => hshown h.1

end Slot

/-! ## Sets in the summary -/

namespace SlotSet

/-- **The text of a set** names the platforms of the slots that are shown. -/
theorem namedIn_display_iff (t : SlotSet) (p : Platform) :
    p.NamedIn t.display ↔ ∃ s ∈ t.slots, s.isShown ∧ s.platform = p := by
  rw [display, Platform.namedIn_intercalate_iff]
  simp only [List.mem_filter, List.mem_map, decide_eq_true_eq]
  constructor
  · rintro ⟨-, ⟨⟨s, hs, rfl⟩, -⟩, hp⟩
    exact ⟨s, hs, (s.namedIn_display_iff p).1 hp⟩
  · rintro ⟨s, hs, hp⟩
    have hnamed := (s.namedIn_display_iff p).2 hp
    -- Texts that are empty are left out, but this one has a name in it.
    refine ⟨s.display, ⟨⟨s, hs, rfl⟩, fun hempty => ?_⟩, hnamed⟩
    rw [hempty] at hnamed
    exact p.not_namedIn_empty hnamed

/-- A text that names no platform is empty. -/
theorem display_eq_empty_iff (t : SlotSet) :
    t.display = "" ↔ ∀ p : Platform, ¬p.NamedIn t.display := by
  constructor
  · intro hempty p
    rw [hempty]
    exact p.not_namedIn_empty
  · intro hnone
    have hslots : (t.slots.map Slot.display).filter (· ≠ "") = [] := by
      rw [List.filter_eq_nil_iff]
      intro text htext
      obtain ⟨s, hs, rfl⟩ := List.mem_map.1 htext
      have hnot : ¬s.isShown := fun hshown =>
        hnone s.platform ((t.namedIn_display_iff _).2 ⟨s, hs, hshown, rfl⟩)
      simp [Slot.display_of_not_isShown hnot]
    rw [display, hslots]
    rfl

/-- Where names follow positions, a platform is named if its slot is shown. -/
theorem namedIn_display_iff_of_namesMatch {t : SlotSet} (h : t.NamesMatch) (p : Platform) :
    p.NamedIn t.display ↔ (t.get p).any Slot.isShown := by
  rw [namedIn_display_iff, Option.any_eq_true]
  simp only [mem_slots_iff]
  constructor
  · rintro ⟨s, ⟨q, hq⟩, hshown, rfl⟩
    rw [h q s hq]
    exact ⟨s, hq, hshown⟩
  · rintro ⟨s, hs, hshown⟩
    exact ⟨s, ⟨p, hs⟩, hshown, h p s hs⟩

end SlotSet

/-! ## The summary of a record -/

namespace FactKind

/-- The part of a summary that lists the kind. -/
def entry (k : FactKind) (text : String) : String := k.name ++ " = " ++ text

theorem head?_entry (k : FactKind) (text : String) :
    (k.entry text).toList.head? = k.name.toList.head? := by
  cases k <;> simp [entry, name]

/-- Which kind is listed, and how, can be read off the part. -/
theorem entry_inj {k l : FactKind} {text text' : String} :
    k.entry text = l.entry text' ↔ k = l ∧ text = text' := by
  constructor
  · intro h
    -- The names of the four kinds begin with four letters.
    have hhead := congrArg (fun part : String => part.toList.head?) h
    simp only [head?_entry] at hhead
    obtain rfl : k = l := by
      cases k <;> cases l <;> first | rfl | exact absurd hhead (by decide)
    exact ⟨rfl, (String.append_right_inj _).1 h⟩
  · rintro ⟨rfl, rfl⟩
    rfl

end FactKind

namespace Record

/-- The summary lists the kind with this text. -/
def Lists (r : Record) (k : FactKind) (text : String) : Prop := k.entry text ∈ r.summaryParts

theorem lists_iff (r : Record) (k : FactKind) (text : String) :
    r.Lists k text ↔ (r.facts k).isSpecified ∧ text = (r.facts k).display := by
  have hmessage : ∀ m, k.entry text ≠ "Message = \"" ++ escapeQuotes m ++ "\"" := by
    intro m h
    have hhead := congrArg (fun part : String => part.toList.head?) h
    simp only [FactKind.head?_entry] at hhead
    cases k <;> simp [FactKind.name] at hhead
  rw [Lists, summaryParts, List.mem_append, List.mem_map]
  constructor
  · rintro (⟨l, hl, heq⟩ | h)
    · obtain ⟨rfl, rfl⟩ := FactKind.entry_inj.1 heq
      exact ⟨(List.mem_filter.1 hl).2, rfl⟩
    · obtain ⟨m, -, hm⟩ := Option.map_eq_some_iff.1 (Option.mem_toList.1 h)
      exact absurd hm.symm (hmessage m)
  · rintro ⟨hspecified, rfl⟩
    exact Or.inl ⟨k, List.mem_filter.2 ⟨by cases k <;> decide, hspecified⟩, rfl⟩

/-- A text names just the platforms with a fact if each slot that states something is
shown. -/
theorem namedIn_iff_isSpecifiedFor_iff {r : Record} {k : FactKind} {text : String}
    (h : ∀ p : Platform, p.NamedIn text ↔ (r.slot k p).any Slot.isShown) :
    (∀ p : Platform, p.NamedIn text ↔ r.isSpecifiedFor k p) ↔
      ∀ p s, r.slot k p = some s → s.isSpecified → s.isShown := by
  refine forall_congr' fun p => ?_
  rw [h p, isSpecifiedFor, SlotSet.isSpecifiedFor, ← slot]
  cases hs : r.slot k p with
  | none => simp
  | some s =>
    simp only [Option.any_some, Option.some.injEq, forall_eq']
    exact ⟨fun hiff => hiff.2, fun himp => ⟨Slot.isSpecified_of_isShown, himp⟩⟩

/-- **What a summary shows.** Attributes are gathered from nothing. The summary lists just
the kinds of which something is stated. In the text of a kind a platform is named exactly
if its slot is shown, and a text that names no platform is empty. So the texts name all
platforms with facts of the kind if, and only if, whatever states something is shown. -/
theorem display_gathered {policy : ConflictPolicy} {l : List Attribute} {r : Record}
    (h : mergeAttributes policy none l = .ok (some r)) :
    r.display = (if r.summaryParts = [] then "[Availability]"
      else "[Availability (" ++ ", ".intercalate r.summaryParts ++ ")]") ∧
    ∀ k, ((r.facts k).isSpecified ↔ ∃ text, r.Lists k text) ∧
      ∀ text, r.Lists k text →
        (∀ p : Platform, p.NamedIn text ↔ ∃ s, r.slot k p = some s ∧ s.isShown) ∧
        (text = "" ↔ ∀ p : Platform, ¬p.NamedIn text) ∧
        ((∀ p : Platform, p.NamedIn text ↔ r.isSpecifiedFor k p) ↔
          ∀ p s, r.slot k p = some s → s.isSpecified → s.isShown) := by
  have hnames := namesMatch_gather policy l (gather_of_mergeAttributes_eq_ok h).symm
  refine ⟨?_, fun k => ⟨?_, ?_⟩⟩
  · unfold display
    by_cases hparts : r.summaryParts = []
    · rw [if_pos hparts, hparts]
    · obtain ⟨part, parts, hcons⟩ := List.exists_cons_of_ne_nil hparts
      rw [if_neg hparts, hcons]
  · simp only [lists_iff, exists_and_left, exists_eq, and_true]
  · intro text hlists
    obtain ⟨-, rfl⟩ := (r.lists_iff k text).1 hlists
    have hnamed := SlotSet.namedIn_display_iff_of_namesMatch (hnames k)
    refine ⟨fun p => ?_, SlotSet.display_eq_empty_iff _, namedIn_iff_isSpecifiedFor_iff hnamed⟩
    rw [hnamed p, Option.any_eq_true]
    rfl

/-- Of two platforms for which the API is unavailable, one is named. -/
theorem display_gathered_oneOfTwo :
    let l : List Attribute := [.single .unavailable .tvOS 0 0 .arch32 none,
      .single .unavailable .macOS 0 0 .every none]
    let t : SlotSet := { SlotSet.empty with
      macOS := ⟨.macOS, .every, 0, 0, 0⟩, tvOS := ⟨.tvOS, .arch32, 0, 0, 0⟩ }
    let r : Record := { Record.empty with unavailable := t }
    let text := "Platform.tvOS_Arch32"
    mergeAttributes .bitwiseOr none l = .ok (some r) ∧ r.Lists .unavailable text ∧
      Platform.tvOS.NamedIn text ∧
      r.isSpecifiedFor .unavailable .macOS ∧ ¬Platform.macOS.NamedIn text := by
  intro l t r text
  have h : mergeAttributes .bitwiseOr none l = .ok (some r) :=
    mergeAttributes_of_gather_eq (by decide) (by decide)
  have hlists : r.Lists .unavailable text := (r.lists_iff .unavailable text).2 (by decide)
  obtain ⟨-, hkinds⟩ := display_gathered h
  obtain ⟨hnamed, -, -⟩ := (hkinds .unavailable).2 text hlists
  refine ⟨h, hlists, (hnamed .tvOS).2 ⟨_, rfl, by decide⟩, by decide, fun hmacOS => ?_⟩
  obtain ⟨s, hs, hshown⟩ := (hnamed .macOS).1 hmacOS
  cases hs
  exact absurd hshown (by decide)

/-- An API that is unavailable on iOS, whatever the architecture, is listed with no text. -/
theorem display_gathered_nothingShown :
    let l : List Attribute :=
      [⟨Shape.interopScope, "UnavailableAttribute", [.byte 2, .byte 0xff, .null], []⟩]
    ∃ r, mergeAttributes .bitwiseOr none l = .ok (some r) ∧
      r.isSpecifiedFor .unavailable .iOS ∧ r.Lists .unavailable "" ∧
      r.display = "[Availability (Unavailable = )]" := by
  intro l
  refine ⟨{ Record.empty with unavailable := .single ⟨.iOS, .every, 0, 0, 0⟩ }, ?_, by decide,
    (lists_iff ..).2 (by decide), by decide⟩
  exact mergeAttributes_of_gather_eq (by decide) (by decide)

end Record

end ApiAvailability
