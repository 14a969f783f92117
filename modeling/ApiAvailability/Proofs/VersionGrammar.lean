/-
A deployment target is read exactly from the texts that are written so.

What is written is two or three numerals with a point between them
(`Deployment.Written`). No numeral contains a point, so cutting at the points undoes
joining with them and the parts that are read are the ones that were joined
(`mapM_component?_components_iff`); how many there are decides the rest. Blanks enter only
through trimming: none of the characters of a target is one (`Written.isBlank_eq_false`),
so a target keeps all of them while everything blank around it goes.
-/
import ApiAvailability.Deployment
import ApiAvailability.Proofs.Numeral
import Mathlib.Data.List.Forall2

set_option autoImplicit false

namespace ApiAvailability

/-! ## Blanks at the end -/

namespace Text

theorem dropBlankEnd_append_of_blank {b : List Char} (hb : ∀ c ∈ b, isBlank c) (cs : List Char) :
    dropBlankEnd (cs ++ b) = dropBlankEnd cs := by
  have hreverse : ∀ c ∈ b.reverse, isBlank c := fun c hc => hb c (List.mem_reverse.1 hc)
  rw [dropBlankEnd, List.reverse_append, List.dropWhile_append_of_pos hreverse, dropBlankEnd]

/-- Blanks behind a text do not matter to what is left of it either. -/
theorem trimChars_append_blank {b : List Char} (hb : ∀ c ∈ b, isBlank c) (cs : List Char) :
    trimChars (cs ++ b) = trimChars cs := by
  rw [trimChars, trimChars, List.dropWhile_append]
  by_cases hcs : (cs.dropWhile isBlank).isEmpty
  · -- A text of blanks only: all that is left are blanks of the end.
    rw [if_pos hcs, List.isEmpty_iff.1 hcs, ← List.append_nil b,
      List.dropWhile_append_of_pos hb]
    rfl
  · rw [if_neg hcs, dropBlankEnd_append_of_blank hb]

theorem trim_append_blank {before after : String} (hbefore : ∀ c ∈ before.toList, isBlank c)
    (hafter : ∀ c ∈ after.toList, isBlank c) (s : String) :
    trim (before ++ s ++ after) = trim s := by
  rw [trim, String.toList_append, String.toList_append, trimChars_append_blank hafter,
    trimChars_append_of_blank hbefore, trim]

theorem isBlank_eq_false_of_isDigit {c : Char} (h : c.isDigit = true) : isBlank c = false := by
  have hdigits : ∀ d < 10, isBlank (Nat.digitChar d) = false := by decide
  exact of_isDigit (P := (isBlank · = false)) hdigits h

end Text

namespace Deployment

open Text (Numeral)

/-! ## The grammar -/

/-- How a target is written: two or three numerals below 256, any zeros in front of them
included, with a point between one and the next. A patch that is not written is zero. -/
inductive Written : List Char → Deployment → Prop
  | twoParts {a b : List Char} {major minor : UInt8} :
      Numeral a major.toNat → Numeral b minor.toNat → Written (a ++ '.' :: b) ⟨major, minor, 0⟩
  | threeParts {a b c : List Char} {major minor patch : UInt8} :
      Numeral a major.toNat → Numeral b minor.toNat → Numeral c patch.toNat →
      Written (a ++ '.' :: (b ++ '.' :: c)) ⟨major, minor, patch⟩

/-! ## Reading the parts -/

theorem component?_eq_some_iff (cs : List Char) (b : UInt8) :
    component? cs = some b ↔ Numeral cs b.toNat := by
  rw [component?, Option.bind_eq_some_iff, ← Text.digitsValue?_eq_some_iff]
  constructor
  · rintro ⟨n, hvalue, hbyte⟩
    split at hbyte
    · rename_i hn
      rw [← Option.some.inj hbyte, UInt8.toNat_ofNat_of_lt' hn, hvalue]
    · cases hbyte
  · intro hvalue
    refine ⟨b.toNat, hvalue, ?_⟩
    rw [if_pos b.toNat_lt, UInt8.ofNat_toNat]

/-- Several parts are read if each is a numeral. -/
theorem mapM_component?_iff (parts : List (List Char)) (bytes : List UInt8) :
    parts.mapM component? = some bytes ↔
      List.Forall₂ (fun part b => Numeral part b.toNat) parts bytes := by
  induction parts generalizing bytes with
  | nil =>
    rw [List.mapM_nil, List.forall₂_nil_left_iff]
    exact Option.some_inj.trans eq_comm
  | cons part parts ih =>
    rw [List.mapM_cons, List.forall₂_cons_left_iff]
    simp only [Option.bind_eq_bind, Option.bind_eq_some_iff, component?_eq_some_iff, ih]
    constructor
    · rintro ⟨b, hb, bs, hbs, hbytes⟩
      exact ⟨b, bs, hb, hbs, (Option.some.inj hbytes).symm⟩
    · rintro ⟨b, bs, hb, hbs, rfl⟩
      exact ⟨b, hb, bs, hbs, rfl⟩

theorem point_not_mem {parts : List (List Char)} {bytes : List UInt8}
    (h : List.Forall₂ (fun part b => Numeral part b.toNat) parts bytes) :
    ∀ part ∈ parts, '.' ∉ part := by
  induction h with
  | nil => exact fun _ hpart => absurd hpart List.not_mem_nil
  | cons hpart hparts ih => exact List.forall_mem_cons.2 ⟨hpart.not_mem rfl, ih⟩

/-- **The parts are the numerals** that were joined with points. -/
theorem mapM_component?_components_iff (cs : List Char) (bytes : List UInt8) :
    (components cs).mapM component? = some bytes ↔
      ∃ parts ≠ [], cs = ['.'].intercalate parts ∧
        List.Forall₂ (fun part b => Numeral part b.toNat) parts bytes := by
  rw [mapM_component?_iff, components]
  constructor
  · intro h
    exact ⟨cs.splitOn '.', List.splitOn_ne_nil _ _, (List.intercalate_splitOn '.').symm, h⟩
  · rintro ⟨parts, hne, rfl, h⟩
    rwa [List.splitOn_intercalate '.' (point_not_mem h) hne]

/-! ## Reading the whole -/

theorem joined_two (a b : List Char) : ['.'].intercalate [a, b] = a ++ '.' :: b := by
  simp

theorem joined_three (a b c : List Char) :
    ['.'].intercalate [a, b, c] = a ++ '.' :: (b ++ '.' :: c) := by
  simp

/-- **The grammar is what is read** where there is nothing to trim. -/
theorem bind_ofComponents?_iff (cs : List Char) (d : Deployment) :
    ((components cs).mapM component?).bind ofComponents? = some d ↔ Written cs d := by
  rw [Option.bind_eq_some_iff]
  simp only [mapM_component?_components_iff]
  constructor
  · rintro ⟨bytes, ⟨parts, -, rfl, hparts⟩, hd⟩
    unfold ofComponents? at hd
    split at hd
    · obtain _ | ⟨ha, _ | ⟨hb, ⟨⟩⟩⟩ := hparts
      rw [joined_two, ← Option.some.inj hd]
      exact .twoParts ha hb
    · obtain _ | ⟨ha, _ | ⟨hb, _ | ⟨hc, ⟨⟩⟩⟩⟩ := hparts
      rw [joined_three, ← Option.some.inj hd]
      exact .threeParts ha hb hc
    · cases hd
  · intro h
    cases h with
    | twoParts ha hb =>
      exact ⟨_, ⟨_, List.cons_ne_nil _ _, (joined_two _ _).symm, .cons ha (.cons hb .nil)⟩, rfl⟩
    | threeParts ha hb hc =>
      exact ⟨_, ⟨_, List.cons_ne_nil _ _, (joined_three _ _ _).symm,
        .cons ha (.cons hb (.cons hc .nil))⟩, rfl⟩

theorem parse_eq_ok_iff (s : String) (d : Deployment) :
    parse s = .ok d ↔ Written (Text.trim s).toList d := by
  rw [← bind_ofComponents?_iff, parse]
  split
  · rename_i e he
    rw [he, Except.ok.injEq, Option.some.injEq]
  · rename_i hnone
    rw [hnone]
    exact ⟨nofun, nofun⟩

/-- A text that is not written so fails, and the error quotes it without its blanks. -/
theorem parse_eq_error_iff (s : String) (e : VersionError) :
    parse s = .error e ↔ (∀ d, ¬ Written (Text.trim s).toList d) ∧ e = ⟨Text.trim s⟩ := by
  simp only [← bind_ofComponents?_iff]
  rw [parse]
  split
  · rename_i d hd
    rw [hd]
    exact ⟨nofun, fun h => absurd rfl (h.1 d)⟩
  · rename_i hnone
    rw [hnone, Except.error.injEq]
    exact ⟨fun h => ⟨fun _ => nofun, h.symm⟩, fun h => h.2.symm⟩

/-! ## What is displayed -/

theorem written_display (d : Deployment) : Written d.display.toList d := by
  obtain ⟨major, minor, patch⟩ := d
  have hmajor := Text.numeral_decimal major.toNat
  have hminor := Text.numeral_decimal minor.toNat
  have hjoined (rest : String) :
      (Text.decimal major.toNat ++ "." ++ Text.decimal minor.toNat ++ rest).toList =
        (Text.decimal major.toNat).toList ++
          '.' :: ((Text.decimal minor.toNat).toList ++ rest.toList) := by
    simp only [String.toList_append, List.append_assoc]
    rfl
  rw [display, hjoined]
  by_cases hpatch : patch > 0
  · rw [if_pos hpatch, String.toList_append]
    exact .threeParts hmajor hminor (Text.numeral_decimal patch.toNat)
  · have hzero : patch = 0 := by
      rw [gt_iff_lt, UInt8.lt_iff_toNat_lt] at hpatch
      exact UInt8.toNat_inj.1 (Nat.eq_zero_of_not_pos hpatch)
    rw [if_neg hpatch, hzero, String.toList_empty, List.append_nil]
    exact .twoParts hmajor hminor

/-- No blank stands in a target. -/
theorem Written.isBlank_eq_false {cs : List Char} {d : Deployment} (h : Written cs d) :
    ∀ c ∈ cs, Text.isBlank c = false := by
  have hnumeral {part : List Char} {n : Nat} (hpart : Numeral part n) :
      ∀ c ∈ part, Text.isBlank c = false :=
    fun c hc => Text.isBlank_eq_false_of_isDigit (hpart.isDigit c hc)
  cases h with
  | twoParts ha hb =>
    exact List.forall_mem_append.2 ⟨hnumeral ha, List.forall_mem_cons.2 ⟨rfl, hnumeral hb⟩⟩
  | threeParts ha hb hc =>
    exact List.forall_mem_append.2 ⟨hnumeral ha, List.forall_mem_cons.2 ⟨rfl,
      List.forall_mem_append.2 ⟨hnumeral hb, List.forall_mem_cons.2 ⟨rfl, hnumeral hc⟩⟩⟩⟩

theorem Written.trim_eq {s : String} {d : Deployment} (h : Written s.toList d) :
    Text.trim s = s := by
  have hblank := h.isBlank_eq_false
  rw [Text.trim, Text.trimChars_eq_self (fun c hc => hblank c (List.mem_of_mem_head? hc))
    (fun c hc => hblank c (List.mem_of_getLast? hc)), String.ofList_toList]

/-- **A target is read exactly where one is written.** A text is read if, without the blanks
around it, it is two or three numerals below 256 with a point between one and the next, and
the target is what they say, with patch zero where there are two. Any other text fails, and
the error quotes it without those blanks. What is displayed for a target is read as this
target, also with blanks around it. -/
theorem parse_grammar :
    (∀ (s : String) (d : Deployment), parse s = .ok d ↔ Written (Text.trim s).toList d) ∧
    (∀ (s : String) (e : VersionError),
      parse s = .error e ↔ (∀ d, ¬ Written (Text.trim s).toList d) ∧ e = ⟨Text.trim s⟩) ∧
    (∀ (d : Deployment) (before after : String),
      (∀ c ∈ before.toList, Text.isBlank c) → (∀ c ∈ after.toList, Text.isBlank c) →
      parse (before ++ d.display ++ after) = .ok d) := by
  refine ⟨parse_eq_ok_iff, parse_eq_error_iff, ?_⟩
  intro d before after hbefore hafter
  rw [parse_eq_ok_iff, Text.trim_append_blank hbefore hafter, (written_display d).trim_eq]
  exact written_display d

/-- An ideographic space before a target and the end of a line behind it. -/
theorem parse_grammar_blanks :
    ((∀ c ∈ "\u3000".toList, Text.isBlank c) ∧ ∀ c ∈ "\n".toList, Text.isBlank c) ∧
    parse ("\u3000" ++ display ⟨10, 13, 2⟩ ++ "\n") = .ok ⟨10, 13, 2⟩ := by
  have hbefore : ∀ c ∈ "\u3000".toList, Text.isBlank c := List.forall_mem_singleton.2 rfl
  have hafter : ∀ c ∈ "\n".toList, Text.isBlank c := List.forall_mem_singleton.2 rfl
  exact ⟨⟨hbefore, hafter⟩, parse_grammar.2.2 _ _ _ hbefore hafter⟩

end Deployment

end ApiAvailability
