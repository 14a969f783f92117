/-
Numbers and strings in compact text are read back.

A reader takes what it reads off the front of a text and leaves the rest. So what
is proved of a part of the printer is one equation about a text with something
behind it: the reader takes exactly the characters that were written, for what
they were written for, and leaves what follows.

What may follow matters, because a number has no end of its own. Behind a value
comes a comma, a closing bracket or brace, or nothing (`Ends`), and none of these
can be taken for one more digit, a fraction or an exponent (`run_number`). A string
brings its own end along, since no escape begins with a quote: each escape is one
unit for the reader (`run_stringUnit`), and the units of a text name its characters
again (`run_stringText?`).
-/
import ApiAvailability.Json.Printer
import ApiAvailability.Json.Reader

set_option autoImplicit false

namespace ApiAvailability

/-! ## The readers on a text with something behind it -/

namespace Scan

/-- One reader goes on where another one stopped. -/
theorem run_bind_of {α β : Type} {p : Scan α} {a : α} {cs r : List Char}
    (h : p.run cs = some (a, r)) (f : α → Scan β) : (p >>= f).run cs = (f a).run r := by
  rw [StateT.run_bind, h]
  rfl

theorem whole?_of_run {α : Type} {p : Scan α} {s : String} {a : α}
    (h : p.run s.toList = some (a, [])) : whole? p s = some a := by
  rw [whole?, h]

theorem run_fun {α : Type} (f : List Char → Option (α × List Char)) (cs : List Char) :
    StateT.run f cs = f cs := rfl

theorem run_peek (cs : List Char) : peek.run cs = some (cs.head?, cs) := rfl

theorem run_next (c : Char) (r : List Char) : next.run (c :: r) = some (c, r) := rfl

theorem run_take {n : Nat} (cs r : List Char) (h : cs.length = n) :
    (take n).run (cs ++ r) = some (cs, r) := by
  show (if n ≤ (cs ++ r).length then _ else _) = _
  rw [if_pos (by simp [← h]), ← h, List.take_left, List.drop_left]

theorem run_expect (cs r : List Char) : (expect cs).run (cs ++ r) = some ((), r) := by
  show (if cs.isPrefixOf (cs ++ r) then _ else _) = _
  rw [if_pos (by simp), List.drop_left]

theorem run_expect_singleton (c : Char) (r : List Char) :
    (expect [c]).run (c :: r) = some ((), r) :=
  run_expect [c] r

theorem run_accept_self (c : Char) (r : List Char) :
    (accept [c]).run (c :: r) = some (true, r) := by
  show (if [c].isPrefixOf (c :: r) then _ else _) = _
  simp

theorem run_accept_of_head?_ne {c : Char} {r : List Char} (h : r.head? ≠ some c) :
    (accept [c]).run r = some (false, r) := by
  show (if [c].isPrefixOf r then _ else _) = _
  cases r with
  | nil => simp
  | cons d r =>
    have hne : c ≠ d := fun heq => h (by simp [heq])
    simp [hne]

section

variable {p : Char → Bool} {cs r : List Char}

theorem run_takeWhile (hcs : ∀ c ∈ cs, p c = true) (hr : ∀ c ∈ r.head?, p c = false) :
    (takeWhile p).run (cs ++ r) = some (cs, r) := by
  have hstop : r.takeWhile p = [] ∧ r.dropWhile p = r := by
    cases r with
    | nil => exact ⟨rfl, rfl⟩
    | cons c r => simp [hr c rfl]
  show some ((cs ++ r).takeWhile p, (cs ++ r).dropWhile p) = _
  rw [List.takeWhile_append_of_pos hcs, List.dropWhile_append_of_pos hcs, hstop.1, hstop.2,
    List.append_nil]

theorem run_takeSome (hne : cs ≠ []) (hcs : ∀ c ∈ cs, p c = true)
    (hr : ∀ c ∈ r.head?, p c = false) : (takeSome p).run (cs ++ r) = some (cs, r) := by
  have hempty : ¬cs.isEmpty = true := by simpa using hne
  rw [takeSome, run_bind_of (run_takeWhile hcs hr), if_neg hempty]
  rfl

end

end Scan

namespace Json

/-! ## What may follow -/

/-- The text ends here, or goes on with what may follow a value. -/
def Ends (r : List Char) : Prop := ∀ c ∈ r.head?, c = ',' ∨ c = ']' ∨ c = '\x7d'

theorem ends_nil : Ends [] := fun _ hc => nomatch hc

theorem ends_comma (r : List Char) : Ends (',' :: r) := fun _ hc => Or.inl (Option.some.inj hc).symm

theorem ends_bracket (r : List Char) : Ends (']' :: r) := fun _ hc =>
  Or.inr (Or.inl (Option.some.inj hc).symm)

theorem ends_brace (r : List Char) : Ends ('\x7d' :: r) := fun _ hc =>
  Or.inr (Or.inr (Option.some.inj hc).symm)

section

variable {r : List Char}

theorem Ends.forall_head? {p : Char → Prop} (h : Ends r) (hp : p ',' ∧ p ']' ∧ p '\x7d') :
    ∀ c ∈ r.head?, p c := by
  intro c hc
  rcases h c hc with rfl | rfl | rfl
  · exact hp.1
  · exact hp.2.1
  · exact hp.2.2

theorem Ends.head?_ne {c : Char} (h : Ends r) (hc : ',' ≠ c ∧ ']' ≠ c ∧ '\x7d' ≠ c) :
    r.head? ≠ some c :=
  fun heq => h.forall_head? (p := (· ≠ c)) hc c heq rfl

theorem run_blanks (h : ∀ c ∈ r.head?, isBlank c = false) : blanks.run r = some ((), r) := by
  have htake : (Scan.takeWhile isBlank).run ([] ++ r) = some ([], r) :=
    Scan.run_takeWhile (by simp) h
  rw [List.nil_append] at htake
  rw [blanks, Scan.run_bind_of htake]
  rfl

theorem Ends.run_blanks (h : Ends r) : blanks.run r = some ((), r) :=
  Json.run_blanks (h.forall_head? (by decide))

end

/-! ## Numbers -/

theorem head?_append_of_ne_nil {α : Type} {l : List α} (h : l ≠ []) (m : List α) :
    (l ++ m).head? = l.head? := by
  cases l with
  | nil => exact absurd rfl h
  | cons a l => rfl

/-- A number is not written with a leading zero. -/
theorem head?_toDigits_ne {n : Nat} (h : n ≠ 0) : (Nat.toDigits 10 n).head? ≠ some '0' := by
  induction n using Nat.strongRecOn with
  | ind n ih =>
    by_cases hlt : n < 10
    · have hdigit : ∀ k < 10, k ≠ 0 → some (Nat.digitChar k) ≠ some '0' := by decide
      rw [Nat.toDigits_of_lt_base hlt]
      exact hdigit n hlt h
    · -- The first digit is that of a tenth of the number.
      rw [Nat.toDigits_of_base_le (by decide) (by omega),
        head?_append_of_ne_nil Nat.toDigits_ne_nil]
      exact ih (n / 10) (by omega) (by omega)

theorem isDigit_of_mem_toDigits {n : Nat} {c : Char} (h : c ∈ Nat.toDigits 10 n) :
    c.isDigit = true :=
  Nat.isDigit_of_mem_toDigits (by decide) (by decide) h

section

variable {r : List Char}

theorem run_wholeDigits (n : Nat) (h : Ends r) :
    wholeDigits.run (Nat.toDigits 10 n ++ r) = some (Nat.toDigits 10 n, r) := by
  have hzero : ((Nat.toDigits 10 n).length > 1 &&
      (Nat.toDigits 10 n).head? == some '0') = false := by
    by_cases hn : n = 0
    · rw [hn]
      decide
    · simp [head?_toDigits_ne hn]
  have htake := Scan.run_takeSome (r := r) Nat.toDigits_ne_nil
    (fun c hc => isDigit_of_mem_toDigits (n := n) hc) (h.forall_head? (by decide))
  rw [wholeDigits, Scan.run_bind_of htake, hzero]
  rfl

theorem Ends.run_fraction (h : Ends r) : fraction.run r = some ([], r) := by
  rw [fraction, Scan.run_bind_of (Scan.run_accept_of_head?_ne (h.head?_ne (by decide)))]
  rfl

theorem Ends.run_exponent (h : Ends r) : exponent.run r = some ([], r) := by
  have hmark : (r.head? == some 'e' || r.head? == some 'E') = false := by
    simp [h.head?_ne (c := 'e') (by decide), h.head?_ne (c := 'E') (by decide)]
  rw [exponent, Scan.run_bind_of (Scan.run_peek r), hmark]
  rfl

theorem run_number (n : Int) (h : Ends r) :
    number.run ((Text.signedDecimal n).toList ++ r) = some (int n, r) := by
  cases n with
  | ofNat k =>
    have hsign : (Nat.toDigits 10 k ++ r).head? ≠ some '-' := by
      rw [head?_append_of_ne_nil Nat.toDigits_ne_nil]
      intro hminus
      exact absurd (isDigit_of_mem_toDigits (List.mem_of_mem_head? hminus)) (by decide)
    rw [Text.signedDecimal, Text.decimal, String.toList_ofList, number,
      Scan.run_bind_of (Scan.run_accept_of_head?_ne hsign), Scan.run_bind_of (run_wholeDigits k h),
      Scan.run_bind_of h.run_fraction, Scan.run_bind_of h.run_exponent,
      Nat.ofDigitChars_ten_toDigits]
    rfl
  | negSucc k =>
    have htext : (Text.signedDecimal (.negSucc k)).toList ++ r =
        '-' :: (Nat.toDigits 10 (k + 1) ++ r) := by
      rw [Text.signedDecimal, Text.decimal, String.toList_append, String.toList_ofList,
        String.toList_ofList]
      rfl
    rw [htext, number, Scan.run_bind_of (Scan.run_accept_self '-' _),
      Scan.run_bind_of (run_wholeDigits (k + 1) h), Scan.run_bind_of h.run_fraction,
      Scan.run_bind_of h.run_exponent, Nat.ofDigitChars_ten_toDigits]
    rfl

end

/-! ## Strings -/

/-- What the reader makes of a character of a string: control characters without
a short escape are given by their unit. -/
def unitOf (c : Char) : Unit16 :=
  if c.toNat < 0x20 ∧ c ∉ ['\x08', '\x0c', '\n', '\r', '\t'] then .escaped c.toNat else .char c

theorem hexDigitValue?_hexDigit :
    ∀ k < 16, Text.hexDigitValue? (Text.hexDigit k) = some k := by
  decide

theorem hexValue?_control {n : Nat} (h : n < 0x20) :
    Text.hexValue? ['0', '0', Text.hexDigit (n / 16), Text.hexDigit (n % 16)] = some n := by
  have hzero : Text.hexDigitValue? '0' = some 0 := by decide
  have hhigh := hexDigitValue?_hexDigit (n / 16) (by omega)
  have hlow := hexDigitValue?_hexDigit (n % 16) (by omega)
  have hvalue : 16 * (n / 16) + n % 16 = n := Nat.div_add_mod n 16
  simp [Text.hexValue?, hzero, hhigh, hlow, hvalue]

theorem run_escapedUnit_control {n : Nat} (h : n < 0x20) (r : List Char) :
    escapedUnit.run ('u' :: '0' :: '0' :: Text.hexDigit (n / 16) :: Text.hexDigit (n % 16) :: r) =
      some (.escaped n, r) := by
  have hdigits : (Scan.take 4).run
      (['0', '0', Text.hexDigit (n / 16), Text.hexDigit (n % 16)] ++ r) =
      some (['0', '0', Text.hexDigit (n / 16), Text.hexDigit (n % 16)], r) :=
    Scan.run_take _ r rfl
  simp only [List.cons_append, List.nil_append] at hdigits
  rw [escapedUnit, Scan.run_bind_of (Scan.run_next 'u' _)]
  simp only
  rw [Scan.run_bind_of hdigits, hexValue?_control h]
  rfl

/-- The three ways to write a character: a short escape, its unit, or itself. -/
theorem escapeChar_cases (c : Char) :
    (c ∈ ['"', '\\', '\x08', '\x0c', '\n', '\r', '\t'] ∧
      ∃ d ∈ ['"', '\\', 'b', 'f', 'n', 'r', 't'], escapeChar c = ['\\', d]) ∨
    (c.toNat < 0x20 ∧ unitOf c = .escaped c.toNat ∧ escapeChar c =
      ['\\', 'u', '0', '0', Text.hexDigit (c.toNat / 16), Text.hexDigit (c.toNat % 16)]) ∨
    (0x20 ≤ c.toNat ∧ c ≠ '"' ∧ c ≠ '\\' ∧ unitOf c = .char c ∧ escapeChar c = [c]) := by
  by_cases hshort : c ∈ ['"', '\\', '\x08', '\x0c', '\n', '\r', '\t']
  · refine Or.inl ⟨hshort, ?_⟩
    simp only [List.mem_cons, List.not_mem_nil, or_false] at hshort
    rcases hshort with rfl | rfl | rfl | rfl | rfl | rfl | rfl <;> exact ⟨_, by decide, rfl⟩
  · right
    simp only [List.mem_cons, List.not_mem_nil, or_false, not_or] at hshort
    by_cases hcontrol : c.toNat < 0x20
    · exact Or.inl ⟨hcontrol, by simp [unitOf, hshort, hcontrol],
        by simp [escapeChar, hshort, hcontrol]⟩
    · exact Or.inr ⟨by omega, hshort.1, hshort.2.1, by simp [unitOf, hcontrol],
        by simp [escapeChar, hshort, hcontrol]⟩

/-- **An escape is one unit,** whatever comes after it. -/
theorem run_stringUnit (c : Char) (r : List Char) :
    stringUnit.run (escapeChar c ++ r) = some ([unitOf c], r) := by
  rcases escapeChar_cases c with ⟨hshort, -⟩ | ⟨hcontrol, hunit, hescape⟩ |
    ⟨hplain, -, hne, hunit, hescape⟩
  · simp only [List.mem_cons, List.not_mem_nil, or_false] at hshort
    rcases hshort with rfl | rfl | rfl | rfl | rfl | rfl | rfl <;> rfl
  · rw [hescape, hunit, stringUnit, List.cons_append, Scan.run_bind_of (Scan.run_next '\\' _),
      if_pos rfl]
    exact Scan.run_bind_of (run_escapedUnit_control hcontrol r) _
  · rw [hescape, hunit, stringUnit, List.cons_append, Scan.run_bind_of (Scan.run_next c _),
      if_neg hne, if_neg (Nat.not_lt.2 hplain)]
    rfl

theorem exists_escapeChar_eq_cons (c : Char) : ∃ d cs, escapeChar c = d :: cs ∧ d ≠ '"' := by
  rcases escapeChar_cases c with ⟨-, d, -, hescape⟩ | ⟨-, -, hescape⟩ | ⟨-, hne, -, -, hescape⟩
  · exact ⟨_, _, hescape, by decide⟩
  · exact ⟨_, _, hescape, by decide⟩
  · exact ⟨_, _, hescape, hne⟩

/-- The end of a string: its closing quote, which adds nothing. -/
def closingQuote : Scan (Option (List Unit16)) := do
  pure (if ← Scan.accept ['"'] then some [] else none)

theorem run_closingQuote_self (r : List Char) :
    closingQuote.run ('"' :: r) = some (some [], r) := by
  rw [closingQuote, Scan.run_bind_of (Scan.run_accept_self '"' r)]
  rfl

theorem run_closingQuote_escapeChar (c : Char) (r : List Char) :
    closingQuote.run (escapeChar c ++ r) = some (none, escapeChar c ++ r) := by
  obtain ⟨d, cs, hcons, hne⟩ := exists_escapeChar_eq_cons c
  have hhead : (escapeChar c ++ r).head? ≠ some '"' := by
    rw [hcons]
    exact fun heq => hne (Option.some.inj heq)
  rw [closingQuote, Scan.run_bind_of (Scan.run_accept_of_head?_ne hhead)]
  rfl

theorem escape_cons (c : Char) (cs : List Char) : escape (c :: cs) = escapeChar c ++ escape cs :=
  List.flatMap_cons

/-- A string is read up to its closing quote, given a round for each character
and one for the quote. -/
theorem run_piecesUntil_quote (cs r : List Char) {rounds : Nat} (h : cs.length < rounds) :
    (Scan.piecesUntil closingQuote stringUnit rounds).run (escape cs ++ '"' :: r) =
      some (cs.map unitOf, r) := by
  obtain ⟨k, rfl⟩ : ∃ k, rounds = k + 1 := ⟨rounds - 1, by omega⟩
  induction cs generalizing k with
  | nil =>
    show (Scan.piecesUntil closingQuote stringUnit (k + 1)).run ('"' :: r) = _
    rw [Scan.piecesUntil, Scan.run_bind_of (run_closingQuote_self r)]
    rfl
  | cons c cs ih =>
    rw [List.length_cons] at h
    obtain ⟨k, rfl⟩ : ∃ m, k = m + 1 := ⟨k - 1, by omega⟩
    rw [escape_cons, List.append_assoc, Scan.piecesUntil,
      Scan.run_bind_of (run_closingQuote_escapeChar c _)]
    simp only
    rw [Scan.run_bind_of (run_stringUnit c _), Scan.run_bind_of (ih k (by omega))]
    rfl

theorem length_le_length_escape (cs : List Char) : cs.length ≤ (escape cs).length := by
  induction cs with
  | nil => exact Nat.zero_le _
  | cons c cs ih =>
    obtain ⟨d, ds, hcons, -⟩ := exists_escapeChar_eq_cons c
    rw [escape_cons, hcons, List.length_append, List.length_cons, List.length_cons]
    omega

theorem charsOfUnits?_unitOf_cons (c : Char) (units : List Unit16) :
    charsOfUnits? (unitOf c :: units) = (charsOfUnits? units).map (c :: ·) := by
  unfold unitOf
  split
  · next h =>
    -- A unit below U+0020 is no half of a pair, so it does not look at the next one.
    have hhigh : isHighHalf c.toNat = false := by simp [isHighHalf]; omega
    have hlow : isLowHalf c.toNat = false := by simp [isLowHalf]; omega
    cases units with
    | nil => simp [charsOfUnits?, hhigh, hlow]
    | cons unit units => cases unit <;> simp [charsOfUnits?, hhigh, hlow]
  · rfl

theorem charsOfUnits?_map_unitOf (cs : List Char) : charsOfUnits? (cs.map unitOf) = some cs := by
  induction cs with
  | nil => rfl
  | cons c cs ih => rw [List.map_cons, charsOfUnits?_unitOf_cons, ih, Option.map_some]

/-- A string whose opening quote has been read. -/
theorem run_stringText? (s : String) (r : List Char) :
    stringText?.run (escape s.toList ++ '"' :: r) = some (some s, r) := by
  have hrounds : s.toList.length < (escape s.toList ++ '"' :: r).length + 1 := by
    have hle := length_le_length_escape s.toList
    rw [List.length_append]
    omega
  have hunits : stringUnits.run (escape s.toList ++ '"' :: r) = some (s.toList.map unitOf, r) :=
    run_piecesUntil_quote s.toList r hrounds
  rw [stringText?, Scan.run_bind_of hunits, charsOfUnits?_map_unitOf, Option.map_some,
    String.ofList_toList]
  rfl

end Json

end ApiAvailability
