/-
The code of a diagnostic is read exactly from the texts that are written so.

The mark ends at the first digit, and the letters of a mark are no digits in any case, so
a text is cut where its mark was joined to its number (`parse?_eq_some_iff`). A number of
four digits is what its value is filled up to, and with that a code that is read is
displayed as its text in upper case. From 10000 on the display has five digits and is no
code any more; a rule is then looked up by name, and finds none because no name starts
with the mark (`Rule.lookup?_display_iff`).
-/
import ApiAvailability.Proofs.DiagnosticLines

set_option autoImplicit false

namespace ApiAvailability

/-! ## Letter case -/

namespace Text

theorem toNat_toUpper (c : Char) :
    c.toUpper.toNat = if 97 ≤ c.toNat ∧ c.toNat ≤ 122 then c.toNat - 32 else c.toNat := by
  have hrange : ('a'.val ≤ c.val ∧ c.val ≤ 'z'.val) ↔ 97 ≤ c.toNat ∧ c.toNat ≤ 122 := by
    rw [UInt32.le_iff_toNat_le, UInt32.le_iff_toNat_le]
    rfl
  unfold Char.toUpper
  split
  · rename_i hlower
    have hcode := hrange.1 hlower
    rw [if_pos hcode]
    show (c.val + ('A'.val - 'a'.val)).toNat = c.toNat - 32
    rw [UInt32.toNat_add, Char.toNat_val]
    have hdistance : ('A'.val - 'a'.val).toNat = 2 ^ 32 - 32 := by decide
    omega
  · rename_i hother
    rw [if_neg fun hcode => hother (hrange.2 hcode)]

/-- The characters whose upper case is a letter are its two cases. -/
theorem toUpper_eq_iff {c u l : Char} (hu : 65 ≤ u.toNat ∧ u.toNat ≤ 90)
    (hl : l.toNat = u.toNat + 32) : c.toUpper = u ↔ c = u ∨ c = l := by
  rw [← Char.toNat_inj, ← Char.toNat_inj, ← Char.toNat_inj, toNat_toUpper]
  split
  · omega
  · omega

theorem toUpper_of_isDigit {c : Char} (h : c.isDigit = true) : c.toUpper = c := by
  have hdigits : ∀ d < 10, (Nat.digitChar d).toUpper = Nat.digitChar d := by decide
  exact of_isDigit (P := fun c => c.toUpper = c) hdigits h

theorem Numeral.map_toUpper {cs : List Char} {n : Nat} (h : Numeral cs n) :
    cs.map Char.toUpper = cs := by
  rw [List.map_congr_left fun c hc => toUpper_of_isDigit (h.isDigit c hc), List.map_id']

end Text

/-! ## The mark -/

namespace Category

theorem ofMark?_eq_some_iff (s : String) (c : Category) : ofMark? s = some c ↔ s = c.mark := by
  constructor
  · intro h
    unfold ofMark? at h
    split at h
    · rw [← Option.some.inj h]
      rfl
    · cases h
  · intro h
    rw [h, ofMark?_mark]

theorem toList_mark (c : Category) : c.mark.toList = ['X', 'I', 'A'] := by
  cases c
  rfl

theorem map_toUpper_eq_mark_iff (c : Category) (start : List Char) :
    start.map Char.toUpper = c.mark.toList ↔
      ∃ x i a, start = [x, i, a] ∧ (x = 'X' ∨ x = 'x') ∧ (i = 'I' ∨ i = 'i') ∧
        (a = 'A' ∨ a = 'a') := by
  have hx (x : Char) : x.toUpper = 'X' ↔ x = 'X' ∨ x = 'x' :=
    Text.toUpper_eq_iff (by decide) (by decide)
  have hi (i : Char) : i.toUpper = 'I' ↔ i = 'I' ∨ i = 'i' :=
    Text.toUpper_eq_iff (by decide) (by decide)
  have ha (a : Char) : a.toUpper = 'A' ↔ a = 'A' ∨ a = 'a' :=
    Text.toUpper_eq_iff (by decide) (by decide)
  simp only [toList_mark, List.map_eq_cons_iff, List.map_eq_nil_iff, hx, hi, ha]
  constructor
  · rintro ⟨x, _, rfl, hx, i, _, rfl, hi, a, _, rfl, ha, rfl⟩
    exact ⟨x, i, a, rfl, hx, hi, ha⟩
  · rintro ⟨x, i, a, rfl, hx, hi, ha⟩
    exact ⟨x, _, rfl, hx, i, _, rfl, hi, a, _, rfl, ha, rfl⟩

/-- In no case a letter of a mark is a digit. -/
theorem isDigit_eq_false {c : Category} {start : List Char}
    (h : start.map Char.toUpper = c.mark.toList) : ∀ x ∈ start, x.isDigit = false := by
  have hmark : ∀ u ∈ ['X', 'I', 'A'], u.isDigit = false := by
    simp only [List.forall_mem_cons]
    exact ⟨rfl, rfl, rfl, nofun⟩
  intro x hx
  by_contra hdigit
  rw [Bool.not_eq_false] at hdigit
  have hupper : x.toUpper ∈ start.map Char.toUpper := List.mem_map_of_mem hx
  rw [h, toList_mark, Text.toUpper_of_isDigit hdigit] at hupper
  rw [hmark x hupper] at hdigit
  exact Bool.noConfusion hdigit

end Category

namespace Code

open Text (Numeral)

/-! ## The grammar -/

/-- How a code is written: the letters of the mark, each in either case, and behind them four
digits, no fewer and no more. -/
inductive Written : List Char → Prop
  | intro {x i a : Char} {digits : List Char} :
      (x = 'X' ∨ x = 'x') → (i = 'I' ∨ i = 'i') → (a = 'A' ∨ a = 'a') → digits.length = 4 →
      (∀ c ∈ digits, c.isDigit = true) → Written (x :: i :: a :: digits)

/-! ## Reading a code -/

theorem number?_eq_some_iff (digits : List Char) (number : UInt16) :
    number? digits = some number ↔ digits.length = 4 ∧ Numeral digits number.toNat := by
  rw [number?, ← Text.digitsValue?_eq_some_iff]
  by_cases hlength : digits.length = 4
  · rw [if_pos hlength, Option.map_eq_some_iff]
    constructor
    · rintro ⟨n, hvalue, rfl⟩
      have hn := ((Text.digitsValue?_eq_some_iff _ _).1 hvalue).lt_pow
      rw [hlength] at hn
      rw [UInt16.toNat_ofNat_of_lt' (Nat.lt_trans hn (by decide))]
      exact ⟨hlength, hvalue⟩
    · rintro ⟨-, hvalue⟩
      exact ⟨number.toNat, hvalue, UInt16.ofNat_toNat⟩
  · rw [if_neg hlength]
    exact ⟨nofun, fun h => absurd h.1 hlength⟩

/-- The text is cut where its digits begin. -/
theorem takeWhile_dropWhile_append {start digits : List Char}
    (hstart : ∀ c ∈ start, c.isDigit = false) (hdigits : ∀ c ∈ digits, c.isDigit = true) :
    (start ++ digits).takeWhile (!·.isDigit) = start ∧
      (start ++ digits).dropWhile (!·.isDigit) = digits := by
  have hpass : ∀ c ∈ start, (!c.isDigit) = true := by
    intro c hc
    rw [hstart c hc, Bool.not_false]
  rw [List.takeWhile_append_of_pos hpass, List.dropWhile_append_of_pos hpass]
  cases digits with
  | nil => exact ⟨List.append_nil start, rfl⟩
  | cons d ds =>
    have hd : d.isDigit = true := hdigits d List.mem_cons_self
    simp [hd]

/-- **A code is its mark, in any case, joined to four digits.** -/
theorem parse?_eq_some_iff (s : String) (c : Code) :
    parse? s = some c ↔ ∃ start digits, s.toList = start ++ digits ∧
      start.map Char.toUpper = c.category.mark.toList ∧ digits.length = 4 ∧
      Numeral digits c.number.toNat := by
  have hmark (start : List Char) (category : Category) :
      Category.ofMark? (Text.asciiUpper (String.ofList start)) = some category ↔
        start.map Char.toUpper = category.mark.toList := by
    rw [Category.ofMark?_eq_some_iff, Text.asciiUpper, String.toList_ofList, ← String.toList_inj,
      String.toList_ofList]
  simp only [parse?, Option.bind_eq_bind, Option.bind_eq_some_iff, hmark, number?_eq_some_iff]
  constructor
  · rintro ⟨category, hstart, number, ⟨hlength, hvalue⟩, hc⟩
    rw [← Option.some.inj hc]
    exact ⟨_, _, (List.takeWhile_append_dropWhile).symm, hstart, hlength, hvalue⟩
  · rintro ⟨start, digits, hs, hstart, hlength, hvalue⟩
    obtain ⟨htake, hdrop⟩ :=
      takeWhile_dropWhile_append (Category.isDigit_eq_false hstart) hvalue.isDigit
    rw [hs, htake, hdrop]
    exact ⟨c.category, hstart, c.number, ⟨hlength, hvalue⟩, rfl⟩

theorem parse_eq_ok_iff_parse? (s : String) (c : Code) :
    parse s = .ok c ↔ parse? s = some c := by
  unfold parse
  split
  · rename_i c' hc
    rw [hc, Except.ok.injEq, Option.some.injEq]
  · rename_i hnone
    rw [hnone]
    exact ⟨nofun, nofun⟩

theorem exists_parse?_iff (s : String) : (∃ c, parse? s = some c) ↔ Written s.toList := by
  simp only [parse?_eq_some_iff]
  constructor
  · rintro ⟨c, start, digits, hs, hstart, hlength, hvalue⟩
    obtain ⟨x, i, a, rfl, hx, hi, ha⟩ := (c.category.map_toUpper_eq_mark_iff start).1 hstart
    rw [hs]
    exact .intro hx hi ha hlength hvalue.isDigit
  · intro h
    generalize s.toList = cs at h
    cases h with
    | @intro x i a digits hx hi ha hlength hdigits =>
      have hne : digits ≠ [] := List.length_pos_iff.1 (by omega)
      obtain ⟨n, hn⟩ := Numeral.exists_of_isDigit hne hdigits
      have hbound := hn.lt_pow
      rw [hlength] at hbound
      refine ⟨⟨.apple, UInt16.ofNat n⟩, [x, i, a], digits, rfl, ?_, hlength, ?_⟩
      · exact (Category.apple.map_toUpper_eq_mark_iff _).2 ⟨x, i, a, rfl, hx, hi, ha⟩
      · rwa [UInt16.toNat_ofNat_of_lt' (Nat.lt_trans hbound (by decide))]

/-- What is read is displayed with its letters in upper case, and is this text alone. -/
theorem parse?_eq_some_iff_display (s : String) (c : Code) :
    parse? s = some c ↔ Written s.toList ∧ c.display = Text.asciiUpper s := by
  have hdisplay (c : Code) (h : parse? s = some c) : c.display = Text.asciiUpper s := by
    obtain ⟨start, digits, hs, hstart, hlength, hvalue⟩ := (parse?_eq_some_iff s c).1 h
    have hpadded := hvalue.toList_paddedDecimal
    rw [hlength] at hpadded
    rw [← String.toList_inj, display, String.toList_append, hpadded, Text.asciiUpper,
      String.toList_ofList, hs, List.map_append, hstart, hvalue.map_toUpper]
  constructor
  · intro h
    exact ⟨(exists_parse?_iff s).1 ⟨c, h⟩, hdisplay c h⟩
  · rintro ⟨hwritten, hc⟩
    obtain ⟨c', hc'⟩ := (exists_parse?_iff s).2 hwritten
    rw [hc', display_injective (hc.trans (hdisplay c' hc').symm)]

theorem parse_eq_error_iff (s : String) (e : CodeError) :
    parse s = .error e ↔ ¬ Written s.toList ∧ e = ⟨s⟩ := by
  rw [← exists_parse?_iff]
  unfold parse
  split
  · rename_i c hc
    exact ⟨nofun, fun h => absurd ⟨c, hc⟩ h.1⟩
  · rename_i hnone
    rw [hnone, Except.error.injEq]
    exact ⟨fun h => ⟨nofun, h.symm⟩, fun h => h.2.symm⟩

/-! ## What is displayed -/

theorem number_le_iff (c : Code) :
    c.number ≤ 9999 ↔ (Text.paddedDecimal 4 c.number.toNat).toList.length = 4 := by
  rw [Text.length_paddedDecimal_eq_iff (by decide), UInt16.le_iff_toNat_le]
  exact Nat.lt_succ_iff.symm

/-- A text with five digits behind the mark is too long. -/
theorem number_le_of_parse? {c c' : Code} (h : parse? c.display = some c') : c.number ≤ 9999 := by
  obtain ⟨start, digits, hs, hstart, hlength, -⟩ := (parse?_eq_some_iff c.display c').1 h
  have hmark : start.length = c.category.mark.toList.length := by
    rw [← List.length_map Char.toUpper, hstart]
  have htotal := congrArg List.length hs
  rw [display, String.toList_append, List.length_append, List.length_append, hmark, hlength,
    Nat.add_left_cancel_iff] at htotal
  exact (number_le_iff c).2 htotal

/-- **A code is read back while its number has four digits.** -/
theorem parse_display (c : Code) :
    parse c.display = if c.number ≤ 9999 then .ok c else .error ⟨c.display⟩ := by
  split
  · rename_i hnumber
    rw [parse_eq_ok_iff_parse?, parse?_eq_some_iff]
    refine ⟨c.category.mark.toList, _, String.toList_append, ?_, (number_le_iff c).1 hnumber,
      Text.numeral_paddedDecimal 4 c.number.toNat⟩
    cases c.category
    rfl
  · rename_i hnumber
    rw [parse_eq_error_iff, ← exists_parse?_iff]
    exact ⟨fun ⟨c', hc'⟩ => hnumber (number_le_of_parse? hc'), rfl⟩

end Code

/-! ## Rules -/

namespace Rule

theorem parse?_name {r : Rule} (hr : r ∈ all) : Code.parse? r.name = none := by
  have hnames : ∀ r ∈ all, Code.parse? r.name = none := by decide
  exact hnames r hr

/-- The rules are told apart by a key if each is the first with its own. -/
theorem find?_eq_some_iff {κ : Type} [DecidableEq κ] {key : Rule → κ}
    (hself : ∀ r ∈ all, all.find? (key · = key r) = some r) (k : κ) (r : Rule) :
    all.find? (key · = k) = some r ↔ r ∈ all ∧ key r = k := by
  constructor
  · intro h
    have hkey := List.find?_some h
    exact ⟨List.mem_of_find?_eq_some h, of_decide_eq_true hkey⟩
  · rintro ⟨hr, rfl⟩
    exact hself r hr

theorem find?_code_eq_some_iff (c : Code) (r : Rule) :
    all.find? (·.code = c) = some r ↔ r ∈ all ∧ r.code = c :=
  find?_eq_some_iff (by decide) c r

theorem find?_name_eq_some_iff (s : String) (r : Rule) :
    all.find? (·.name = s) = some r ↔ r ∈ all ∧ r.name = s :=
  find?_eq_some_iff (by decide) s r

/-- **A rule is found by its code or by its name.** -/
theorem lookup?_eq_some_iff (s : String) (r : Rule) :
    lookup? s = some r ↔ r ∈ all ∧ (Code.parse s = .ok r.code ∨ s = r.name) := by
  rw [Code.parse_eq_ok_iff_parse?]
  unfold lookup?
  split
  · rename_i c hc
    rw [find?_code_eq_some_iff, hc, Option.some.injEq]
    constructor
    · rintro ⟨hr, rfl⟩
      exact ⟨hr, .inl rfl⟩
    · rintro ⟨hr, rfl | rfl⟩
      · exact ⟨hr, rfl⟩
      · rw [parse?_name hr] at hc
        cases hc
  · rename_i hnone
    rw [find?_name_eq_some_iff, hnone]
    constructor
    · rintro ⟨hr, rfl⟩
      exact ⟨hr, .inr rfl⟩
    · rintro ⟨hr, hcode | rfl⟩
      · cases hcode
      · exact ⟨hr, rfl⟩

/-- The display of a code finds the rule with this code, also where it cannot be read. -/
theorem lookup?_display_iff (c : Code) (r : Rule) :
    lookup? c.display = some r ↔ r ∈ all ∧ c = r.code := by
  have hdistinct : ∀ r ∈ all, c.display ≠ r.name := by
    intro r hr h
    have hfirst : ∀ r ∈ all, r.name.toList.head? ≠ some 'X' := by decide
    apply hfirst r hr
    rw [← h, Code.display, String.toList_append]
    cases c.category
    rfl
  have hread : ∀ r ∈ all, r.code.number ≤ 9999 := by decide
  rw [lookup?_eq_some_iff]
  apply and_congr_right
  intro hr
  constructor
  · rintro (hcode | hname)
    · rw [Code.parse_display] at hcode
      split at hcode
      · exact Except.ok.inj hcode
      · cases hcode
    · exact absurd hname (hdistinct r hr)
  · rintro rfl
    rw [Code.parse_display, if_pos (hread r hr)]
    exact .inl rfl

/-- No text means a rule in both ways. -/
theorem name_ne_of_parse {s : String} {c : Code} (hs : Code.parse s = .ok c) {r : Rule}
    (hr : r ∈ all) : s ≠ r.name := by
  rintro rfl
  rw [Code.parse_eq_ok_iff_parse?, parse?_name hr] at hs
  cases hs

end Rule

/-! ## Rules in JSON lines -/

namespace Diagnostic

/-- A line can be read, and says the rule with the code of its diagnostic. -/
theorem exists_read_jsonLine (d : Diagnostic) :
    ∃ (text : String) (members : List (String × Json)),
      d.jsonLine = text ++ "\n" ∧ Json.read? text = some (.obj members) ∧
      (∀ r ∈ Rule.all, d.code = r.code →
        members.lookup "rule" = some (.str r.name) ∧
        members.lookup "title" = some (.str r.title)) ∧
      ((∀ r ∈ Rule.all, d.code ≠ r.code) →
        members.lookup "rule" = some .null ∧ members.lookup "title" = some .null) := by
  refine ⟨d.toLineJson.render, _, rfl, Json.read?_render d.isWhole_toLineJson, ?_, ?_⟩
  · intro r hr hcode
    have hlookup : Rule.lookup? d.code.display = some r :=
      (Rule.lookup?_display_iff d.code r).2 ⟨hr, hcode⟩
    rw [hlookup]
    exact ⟨rfl, rfl⟩
  · intro hcodes
    have hlookup : Rule.lookup? d.code.display = none := by
      apply Option.eq_none_iff_forall_ne_some.2
      intro r hr
      obtain ⟨hmem, hcode⟩ := (Rule.lookup?_display_iff d.code r).1 hr
      exact hcodes r hmem hcode
    rw [hlookup]
    exact ⟨rfl, rfl⟩

/-- **Codes are read exactly where they are written, and tell the rules apart.** A text is
read if it is the mark, in any case, with four digits behind it, and no other code is
displayed as this text in upper case. Any other text fails, and the error quotes it. A code
is read back from its display up to 9999 and fails beyond. A rule is found by the texts of
its code and by its name, and no text is both. The line of a diagnostic says the name and the
title of the rule with its code, and null twice where there is no such rule. -/
theorem codes_and_rules :
    (∀ s : String, (∃ c, Code.parse s = .ok c) ↔ Code.Written s.toList) ∧
    (∀ (s : String) (c : Code),
      Code.parse s = .ok c ↔ Code.Written s.toList ∧ c.display = Text.asciiUpper s) ∧
    (∀ (s : String) (e : CodeError),
      Code.parse s = .error e ↔ ¬ Code.Written s.toList ∧ e = ⟨s⟩) ∧
    (∀ c : Code,
      Code.parse c.display = if c.number ≤ 9999 then .ok c else .error ⟨c.display⟩) ∧
    (∀ (s : String) (r : Rule),
      Rule.lookup? s = some r ↔ r ∈ Rule.all ∧ (Code.parse s = .ok r.code ∨ s = r.name)) ∧
    (∀ s : String, ∀ r ∈ Rule.all, ∀ r' ∈ Rule.all,
      ¬ (Code.parse s = .ok r.code ∧ s = r'.name)) ∧
    (∀ d : Diagnostic, ∃ (text : String) (members : List (String × Json)),
      d.jsonLine = text ++ "\n" ∧ Json.read? text = some (.obj members) ∧
      (∀ r ∈ Rule.all, d.code = r.code →
        members.lookup "rule" = some (.str r.name) ∧
        members.lookup "title" = some (.str r.title)) ∧
      ((∀ r ∈ Rule.all, d.code ≠ r.code) →
        members.lookup "rule" = some .null ∧ members.lookup "title" = some .null)) := by
  refine ⟨?_, ?_, Code.parse_eq_error_iff, Code.parse_display, Rule.lookup?_eq_some_iff, ?_,
    exists_read_jsonLine⟩
  · intro s
    simp only [Code.parse_eq_ok_iff_parse?]
    exact Code.exists_parse?_iff s
  · intro s c
    rw [Code.parse_eq_ok_iff_parse?]
    exact Code.parse?_eq_some_iff_display s c
  · intro s r hr r' hr' h
    exact Rule.name_ne_of_parse h.1 hr' h.2

/-- The code 1002 is the one of a rule, and 10002 is no rule's. -/
theorem codes_and_rules_known :
    (Rule.introducedLater ∈ Rule.all ∧
      ¬ (Code.parse "advice" = .ok Rule.introducedLater.code ∧ "advice" = Rule.advice.name)) ∧
    (∃ (text : String) (members : List (String × Json)),
      (plain .info ⟨.apple, 1002⟩ "m").jsonLine = text ++ "\n" ∧
      Json.read? text = some (.obj members) ∧
      members.lookup "rule" = some (.str "introduced-later")) ∧
    ((∀ r ∈ Rule.all, (⟨.apple, 10002⟩ : Code) ≠ r.code) ∧
    ∃ (text : String) (members : List (String × Json)),
      (plain .info ⟨.apple, 10002⟩ "m").jsonLine = text ++ "\n" ∧
      Json.read? text = some (.obj members) ∧ members.lookup "rule" = some .null) := by
  have hmem : Rule.introducedLater ∈ Rule.all := by decide
  have hother : ∀ r ∈ Rule.all, (⟨.apple, 10002⟩ : Code) ≠ r.code := by decide
  obtain ⟨-, -, -, -, -, hnever, hline⟩ := codes_and_rules
  refine ⟨⟨hmem, hnever "advice" _ hmem _ (by decide)⟩, ?_, hother, ?_⟩
  · obtain ⟨text, members, htext, hread, hrule, -⟩ := hline (plain .info ⟨.apple, 1002⟩ "m")
    exact ⟨text, members, htext, hread, (hrule _ hmem rfl).1⟩
  · obtain ⟨text, members, htext, hread, -, hnone⟩ := hline (plain .info ⟨.apple, 10002⟩ "m")
    exact ⟨text, members, htext, hread, (hnone hother).1⟩

end Diagnostic

end ApiAvailability
