/-
Runs of digits and what they are worth.

A numeral is put together digit by digit from the left (`Text.Numeral`): each digit that
follows makes the value ten times as large and adds its own. Leading zeros are digits like
any others, so a number has many numerals, but only one of each length, because the value
determines the last digit and what stands before it (`Numeral.eq_of_length_eq`). That is
why filling up with zeros can be undone and done again: of the digits with a value those
that were filled up are the ones with the length.
-/
import ApiAvailability.Text.Decimal
import Mathlib.Algebra.Group.Nat.Defs
import Mathlib.Data.List.Induction

set_option autoImplicit false

namespace ApiAvailability.Text

/-! ## Numerals -/

/-- One or more decimal digits, perhaps with zeros in front, and their value. -/
inductive Numeral : List Char → Nat → Prop
  | digit {d : Nat} : d < 10 → Numeral [Nat.digitChar d] d
  | append {cs : List Char} {n d : Nat} :
      Numeral cs n → d < 10 → Numeral (cs ++ [Nat.digitChar d]) (10 * n + d)

theorem isDigit_digitChar {d : Nat} (h : d < 10) : (Nat.digitChar d).isDigit = true := by
  rw [Nat.isDigit_digitChar, decide_eq_true h]

theorem exists_digitChar_eq {c : Char} (h : c.isDigit = true) :
    ∃ d < 10, c = Nat.digitChar d := by
  have hrange : 48 ≤ c.toNat ∧ c.toNat ≤ 57 := by
    simpa [Char.isDigit, UInt32.le_iff_toNat_le] using h
  refine ⟨c.toNat - 48, by omega, ?_⟩
  apply Char.toNat_inj.1
  rw [Nat.toNat_digitChar_of_lt_ten (by omega)]
  omega

/-- What holds of the ten digits holds of every character that is one. -/
theorem of_isDigit {P : Char → Prop} (h : ∀ d < 10, P (Nat.digitChar d)) {c : Char}
    (hc : c.isDigit = true) : P c := by
  obtain ⟨d, hd, rfl⟩ := exists_digitChar_eq hc
  exact h d hd

namespace Numeral

variable {cs ds : List Char} {m n : Nat}

theorem ne_nil (h : Numeral cs n) : cs ≠ [] := by
  cases h with
  | digit hd => exact List.cons_ne_nil _ _
  | append hcs hd => exact List.append_ne_nil_of_right_ne_nil _ (List.cons_ne_nil _ _)

theorem isDigit (h : Numeral cs n) : ∀ c ∈ cs, c.isDigit = true := by
  induction h with
  | digit hd =>
    intro c hc
    rw [List.mem_singleton.1 hc]
    exact isDigit_digitChar hd
  | append hcs hd ih =>
    intro c hc
    rcases List.mem_append.1 hc with hc | hc
    · exact ih c hc
    · rw [List.mem_singleton.1 hc]
      exact isDigit_digitChar hd

theorem not_mem (h : Numeral cs n) {c : Char} (hc : c.isDigit = false) : c ∉ cs := by
  intro hmem
  rw [h.isDigit c hmem] at hc
  exact Bool.noConfusion hc

/-- Digits have a value. -/
theorem exists_of_isDigit (hne : cs ≠ []) (h : ∀ c ∈ cs, c.isDigit = true) :
    ∃ n, Numeral cs n := by
  induction cs using List.reverseRecOn with
  | nil => exact absurd rfl hne
  | append_singleton cs c ih =>
    obtain ⟨d, hd, rfl⟩ := exists_digitChar_eq (h c (by simp))
    by_cases hcs : cs = []
    · subst hcs
      exact ⟨d, .digit hd⟩
    · obtain ⟨n, hn⟩ := ih hcs fun c hc => h c (by simp [hc])
      exact ⟨10 * n + d, hn.append hd⟩

/-- The value is the one to which the digits are added up. -/
theorem ofDigitChars_eq (h : Numeral cs n) : Nat.ofDigitChars 10 cs 0 = n := by
  induction h with
  | digit hd =>
    rw [Nat.ofDigitChars_cons_digitChar_of_lt_ten hd, Nat.ofDigitChars_nil, Nat.zero_add]
  | append hcs hd ih =>
    rw [Nat.ofDigitChars_append, ih, Nat.ofDigitChars_cons_digitChar_of_lt_ten hd,
      Nat.ofDigitChars_nil]

/-- **Among numerals of one length the value tells which one it is.** -/
theorem eq_of_length_eq (hcs : Numeral cs n) (hds : Numeral ds n)
    (hlength : cs.length = ds.length) : cs = ds := by
  induction hcs generalizing ds with
  | digit hd =>
    cases hds with
    | digit => rfl
    | append hds' =>
      have hpos := List.length_pos_iff.2 hds'.ne_nil
      simp only [List.length_cons, List.length_append, List.length_nil] at hlength
      omega
  | @append cs n d hcs hd ih =>
    generalize hvalue : 10 * n + d = v at hds
    cases hds with
    | digit =>
      have hpos := List.length_pos_iff.2 hcs.ne_nil
      simp only [List.length_cons, List.length_append, List.length_nil] at hlength
      omega
    | @append ds n' d' hds hd' =>
      obtain ⟨rfl, rfl⟩ : n = n' ∧ d = d' := by omega
      rw [List.length_append, List.length_append, Nat.add_right_cancel_iff] at hlength
      rw [ih hds hlength]

/-- The value has no more digits than the numeral. -/
theorem lt_pow (h : Numeral cs n) : n < 10 ^ cs.length := by
  induction h with
  | digit hd => simpa using hd
  | append hcs hd ih =>
    rw [List.length_append, List.length_singleton, Nat.pow_succ]
    omega

end Numeral

/-! ## Reading -/

theorem digitsValue?_of_isDigit {cs : List Char} (hne : cs ≠ [])
    (hdigit : ∀ c ∈ cs, c.isDigit = true) :
    digitsValue? cs = some (Nat.ofDigitChars 10 cs 0) := by
  have hread : (!cs.isEmpty && cs.all Char.isDigit) = true := by
    simpa [hne] using hdigit
  rw [digitsValue?, if_pos hread]

/-- **What is read are the numerals,** with their values. -/
theorem digitsValue?_eq_some_iff (cs : List Char) (n : Nat) :
    digitsValue? cs = some n ↔ Numeral cs n := by
  constructor
  · intro h
    unfold digitsValue? at h
    split at h
    · rename_i hrun
      rw [Bool.and_eq_true, List.all_eq_true] at hrun
      obtain ⟨m, hm⟩ := Numeral.exists_of_isDigit (by simpa using hrun.1) hrun.2
      rwa [← Option.some.inj h, hm.ofDigitChars_eq]
    · cases h
  · intro h
    rw [digitsValue?_of_isDigit h.ne_nil h.isDigit, h.ofDigitChars_eq]

theorem numeral_decimal (n : Nat) : Numeral (decimal n).toList n := by
  rw [decimal, String.toList_ofList]
  exact (digitsValue?_eq_some_iff _ n).1 (digitsValue?_toDigits n)

/-! ## Filling up -/

/-- Zeros on the left do not change what digits are worth. -/
theorem digitsValue?_paddedDecimal (width n : Nat) :
    digitsValue? (paddedDecimal width n).toList = some n := by
  have hdigit : ∀ c ∈ List.replicate (width - (Nat.toDigits 10 n).length) '0' ++ Nat.toDigits 10 n,
      c.isDigit = true := by
    intro c hc
    rcases List.mem_append.1 hc with hzero | hdigits
    · rw [List.eq_of_mem_replicate hzero]
      decide
    · exact Nat.isDigit_of_mem_toDigits (by decide) (by decide) hdigits
  rw [paddedDecimal, String.toList_ofList,
    digitsValue?_of_isDigit (List.append_ne_nil_of_right_ne_nil _ Nat.toDigits_ne_nil) hdigit,
    Nat.ofDigitChars_append, Nat.ofDigitChars_replicate_zero, Nat.mul_zero,
    Nat.ofDigitChars_ten_toDigits]

theorem numeral_paddedDecimal (width n : Nat) : Numeral (paddedDecimal width n).toList n :=
  (digitsValue?_eq_some_iff _ n).1 (digitsValue?_paddedDecimal width n)

/-- Filling up reaches the width where the number has no more digits, and only there. -/
theorem length_paddedDecimal_eq_iff {width n : Nat} (hwidth : 0 < width) :
    (paddedDecimal width n).toList.length = width ↔ n < 10 ^ width := by
  rw [paddedDecimal, String.toList_ofList, List.length_append, List.length_replicate,
    ← Nat.length_toDigits_le_iff (by decide) hwidth]
  omega

/-- Digits are what their value is filled up to. -/
theorem Numeral.toList_paddedDecimal {cs : List Char} {n : Nat} (h : Numeral cs n) :
    (paddedDecimal cs.length n).toList = cs := by
  have hwidth := List.length_pos_iff.2 h.ne_nil
  exact (numeral_paddedDecimal cs.length n).eq_of_length_eq h
    ((length_paddedDecimal_eq_iff hwidth).2 h.lt_pow)

end ApiAvailability.Text
