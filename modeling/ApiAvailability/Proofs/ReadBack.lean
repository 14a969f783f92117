/-
Compact text is read back as the value that was written.

The reader works in rounds, one for each value and one for each element or member,
and gets as many as the text has characters. A round hands one less to what it
reads inside, and what is inside is shorter by a character at least; so with `k`
rounds every text of at most `k` characters is read back (`ReadsBack`). The step
from `k` to `k + 1` is a lemma for values, for elements and for members, and these
rest on what one round does (`run_value_array`, `run_elements_more` and their like).

Two kinds of value are left out, because their text says less than they do: a
number that is not whole is kept as it was written, which may be the text of a
whole one, and a string that names no text is always written alike (`IsWhole`).
-/
import ApiAvailability.Proofs.LiteralReadBack

set_option autoImplicit false

namespace ApiAvailability

namespace Json

/-! ## Values -/

mutual

/-- Every number in the value is a whole one, and every string names a text. -/
def IsWhole : Json → Prop
  | real _ => False
  | unpaired => False
  | arr elements => IsWholeElements elements
  | obj members => IsWholeMembers members
  | _ => True

def IsWholeElements : List Json → Prop
  | [] => True
  | j :: js => j.IsWhole ∧ IsWholeElements js

def IsWholeMembers : List (String × Json) → Prop
  | [] => True
  | (_, j) :: ms => j.IsWhole ∧ IsWholeMembers ms

end

theorem isWholeElements_iff (js : List Json) : IsWholeElements js ↔ ∀ j ∈ js, j.IsWhole := by
  induction js with
  | nil => simp [IsWholeElements]
  | cons j js ih => simp [IsWholeElements, ih]

theorem chars_str (s : String) : (str s).chars = quoted s := rfl

theorem chars_arr (js : List Json) : (arr js).chars = '[' :: charsOfElements js := rfl

theorem chars_obj (ms : List (String × Json)) : (obj ms).chars = '\x7b' :: charsOfMembers ms := rfl

theorem quoted_append (s : String) (r : List Char) :
    quoted s ++ r = '"' :: (escape s.toList ++ '"' :: r) := by
  rw [quoted, List.cons_append, List.append_assoc]
  rfl

theorem exists_signedDecimal_eq_cons (n : Int) :
    ∃ c cs, (Text.signedDecimal n).toList = c :: cs ∧ (c = '-' ∨ c.isDigit = true) := by
  cases n with
  | ofNat k =>
    obtain ⟨c, cs, hcons⟩ := List.exists_cons_of_ne_nil (Nat.toDigits_ne_nil (n := k) (b := 10))
    refine ⟨c, cs, ?_, Or.inr (isDigit_of_mem_toDigits (n := k) ?_)⟩
    · rw [Text.signedDecimal, Text.decimal, String.toList_ofList, hcons]
    · rw [hcons]
      exact List.mem_cons_self
  | negSucc k =>
    refine ⟨'-', Nat.toDigits 10 (k + 1), ?_, Or.inl rfl⟩
    rw [Text.signedDecimal, Text.decimal, String.toList_append, String.toList_ofList,
      String.toList_ofList]
    rfl

/-- Characters with which a number does not start. -/
theorem ne_of_startsNumber {c d : Char} (hc : c = '-' ∨ c.isDigit = true)
    (hd : d ≠ '-' ∧ d.isDigit = false) : c ≠ d := by
  rintro rfl
  rcases hc with hminus | hdigit
  · exact hd.1 hminus
  · rw [hd.2] at hdigit
    cases hdigit

/-- A value starts with a character that is no blank and closes no array. -/
theorem exists_chars_eq_cons {j : Json} (h : j.IsWhole) :
    ∃ c cs, j.chars = c :: cs ∧ isBlank c = false ∧ c ≠ ']' := by
  cases j with
  | null => exact ⟨'n', ['u', 'l', 'l'], by decide, by decide, by decide⟩
  | bool b =>
    cases b with
    | false => exact ⟨'f', ['a', 'l', 's', 'e'], by decide, by decide, by decide⟩
    | true => exact ⟨'t', ['r', 'u', 'e'], by decide, by decide, by decide⟩
  | int n =>
    obtain ⟨c, cs, hcons, hstart⟩ := exists_signedDecimal_eq_cons n
    have hchars : (int n).chars = c :: cs := hcons
    refine ⟨c, cs, hchars, ?_, ne_of_startsNumber hstart (by decide)⟩
    have hne : c ≠ ' ' ∧ c ≠ '\t' ∧ c ≠ '\n' ∧ c ≠ '\r' :=
      ⟨ne_of_startsNumber hstart (by decide), ne_of_startsNumber hstart (by decide),
        ne_of_startsNumber hstart (by decide), ne_of_startsNumber hstart (by decide)⟩
    simp [isBlank, hne]
  | str s => exact ⟨'"', escape s.toList ++ ['"'], rfl, by decide, by decide⟩
  | arr elements => exact ⟨'[', charsOfElements elements, rfl, by decide, by decide⟩
  | obj members => exact ⟨'\x7b', charsOfMembers members, rfl, by decide, by decide⟩
  | real lexeme => simp [IsWhole] at h
  | unpaired => simp [IsWhole] at h

theorem run_blanks_chars {j : Json} (h : j.IsWhole) (r : List Char) :
    blanks.run (j.chars ++ r) = some ((), j.chars ++ r) := by
  obtain ⟨c, cs, hcons, hblank, -⟩ := exists_chars_eq_cons h
  rw [hcons]
  exact run_blanks fun d hd => Option.some.inj hd ▸ hblank

/-! ## One round -/

section

variable {k : Nat} {cs ds r : List Char} {j : Json} {js : List Json}

theorem run_value_number {c : Char} (h : c = '-' ∨ c.isDigit = true) :
    (value (k + 1)).run (c :: cs) = number.run (c :: cs) := by
  rw [value, Scan.run_bind_of (Scan.run_peek _), List.head?_cons]
  -- A sign or a digit is none of the characters that start other values.
  split
  case h_7 => rfl
  all_goals next heq => exact absurd (Option.some.inj heq) (ne_of_startsNumber h (by decide))

theorem run_value_quote (s : String) :
    (value (k + 1)).run ('"' :: (escape s.toList ++ '"' :: r)) = some (str s, r) := by
  rw [value, Scan.run_bind_of (Scan.run_peek _), List.head?_cons]
  simp only
  rw [Scan.run_bind_of (Scan.run_expect_singleton '"' _), Scan.run_bind_of (run_stringText? s r)]
  rfl

theorem run_value_emptyArray : (value (k + 1)).run ('[' :: ']' :: r) = some (arr [], r) := by
  rw [value, Scan.run_bind_of (Scan.run_peek _), List.head?_cons]
  simp only
  rw [Scan.run_bind_of (Scan.run_expect_singleton '[' _),
    Scan.run_bind_of (ends_bracket r).run_blanks, Scan.run_bind_of (Scan.run_accept_self ']' r)]
  rfl

theorem run_value_array (hblanks : blanks.run cs = some ((), cs)) (hne : cs.head? ≠ some ']')
    (hrest : (elements k).run cs = some (js, r)) :
    (value (k + 1)).run ('[' :: cs) = some (arr js, r) := by
  rw [value, Scan.run_bind_of (Scan.run_peek _), List.head?_cons]
  simp only
  rw [Scan.run_bind_of (Scan.run_expect_singleton '[' _), Scan.run_bind_of hblanks,
    Scan.run_bind_of (Scan.run_accept_of_head?_ne hne)]
  exact Scan.run_bind_of hrest _

theorem run_value_emptyObject :
    (value (k + 1)).run ('\x7b' :: '\x7d' :: r) = some (obj [], r) := by
  rw [value, Scan.run_bind_of (Scan.run_peek _), List.head?_cons]
  simp only
  rw [Scan.run_bind_of (Scan.run_expect_singleton '\x7b' _),
    Scan.run_bind_of (ends_brace r).run_blanks, Scan.run_bind_of (Scan.run_accept_self '\x7d' r)]
  rfl

theorem run_value_object {named : List (Option String × Json)}
    (hrest : (members k).run ('"' :: cs) = some (named, r)) :
    (value (k + 1)).run ('\x7b' :: '"' :: cs) = some (objOfNamed named, r) := by
  have hblanks : blanks.run ('"' :: cs) = some ((), '"' :: cs) :=
    run_blanks fun d hd => Option.some.inj hd ▸ by decide
  have hopen : (Scan.accept ['\x7d']).run ('"' :: cs) = some (false, '"' :: cs) :=
    Scan.run_accept_of_head?_ne (by simp)
  rw [value, Scan.run_bind_of (Scan.run_peek _), List.head?_cons]
  simp only
  rw [Scan.run_bind_of (Scan.run_expect_singleton '\x7b' _), Scan.run_bind_of hblanks,
    Scan.run_bind_of hopen]
  exact Scan.run_bind_of hrest _

theorem run_elements_last (hfirst : (value k).run cs = some (j, ']' :: r)) :
    (elements (k + 1)).run cs = some ([j], r) := by
  have hlast : (Scan.accept [',']).run (']' :: r) = some (false, ']' :: r) :=
    Scan.run_accept_of_head?_ne (by simp)
  rw [elements, Scan.run_bind_of hfirst, Scan.run_bind_of (ends_bracket r).run_blanks,
    Scan.run_bind_of hlast]
  exact Scan.run_bind_of (Scan.run_expect_singleton ']' r) _

theorem run_elements_more (hfirst : (value k).run cs = some (j, ',' :: ds))
    (hblanks : blanks.run ds = some ((), ds)) (hrest : (elements k).run ds = some (js, r)) :
    (elements (k + 1)).run cs = some (j :: js, r) := by
  rw [elements, Scan.run_bind_of hfirst, Scan.run_bind_of (ends_comma ds).run_blanks,
    Scan.run_bind_of (Scan.run_accept_self ',' ds), if_pos rfl, Scan.run_bind_of hblanks]
  exact Scan.run_bind_of hrest _

/-- The name of a member, up to its value. -/
theorem run_members_name (name : String) (hblanks : blanks.run cs = some ((), cs)) :
    (members (k + 1)).run ('"' :: (escape name.toList ++ '"' :: ':' :: cs)) =
      (do
        let first ← value k
        blanks
        if ← Scan.accept [','] then
          blanks
          return (some name, first) :: (← members k)
        else
          Scan.expect ['\x7d']
          pure [(some name, first)] : Scan (List (Option String × Json))).run cs := by
  have hcolon : blanks.run (':' :: cs) = some ((), ':' :: cs) :=
    Json.run_blanks fun d hd => Option.some.inj hd ▸ by decide
  rw [members, Scan.run_bind_of (Scan.run_expect_singleton '"' _),
    Scan.run_bind_of (run_stringText? name _), Scan.run_bind_of hcolon,
    Scan.run_bind_of (Scan.run_expect_singleton ':' cs), Scan.run_bind_of hblanks]

theorem run_members_last (name : String) (hblanks : blanks.run cs = some ((), cs))
    (hfirst : (value k).run cs = some (j, '\x7d' :: r)) :
    (members (k + 1)).run ('"' :: (escape name.toList ++ '"' :: ':' :: cs)) =
      some ([(some name, j)], r) := by
  have hlast : (Scan.accept [',']).run ('\x7d' :: r) = some (false, '\x7d' :: r) :=
    Scan.run_accept_of_head?_ne (by simp)
  rw [run_members_name name hblanks, Scan.run_bind_of hfirst,
    Scan.run_bind_of (ends_brace r).run_blanks, Scan.run_bind_of hlast]
  exact Scan.run_bind_of (Scan.run_expect_singleton '\x7d' r) _

theorem run_members_more (name : String) (hblanks : blanks.run cs = some ((), cs))
    (hfirst : (value k).run cs = some (j, ',' :: ds)) (hnext : blanks.run ds = some ((), ds))
    {named : List (Option String × Json)} (hrest : (members k).run ds = some (named, r)) :
    (members (k + 1)).run ('"' :: (escape name.toList ++ '"' :: ':' :: cs)) =
      some ((some name, j) :: named, r) := by
  rw [run_members_name name hblanks, Scan.run_bind_of hfirst,
    Scan.run_bind_of (ends_comma ds).run_blanks, Scan.run_bind_of (Scan.run_accept_self ',' ds),
    if_pos rfl, Scan.run_bind_of hnext]
  exact Scan.run_bind_of hrest _

end

/-! ## All rounds -/

/-- What is written behind an element: the closing bracket, or a comma and the
elements that are left. -/
def charsAfterElement : List Json → List Char
  | [] => [']']
  | j :: js => ',' :: charsOfElements (j :: js)

/-- What is written behind a member: the closing brace, or a comma and the
members that are left. -/
def charsAfterMember : List (String × Json) → List Char
  | [] => ['\x7d']
  | m :: ms => ',' :: charsOfMembers (m :: ms)

theorem charsOfElements_cons (j : Json) (js : List Json) :
    charsOfElements (j :: js) = j.chars ++ charsAfterElement js := by
  cases js <;> rfl

theorem charsOfMembers_cons (name : String) (j : Json) (ms : List (String × Json)) :
    charsOfMembers ((name, j) :: ms) =
      '"' :: (escape name.toList ++ '"' :: ':' :: (j.chars ++ charsAfterMember ms)) := by
  cases ms with
  | nil => exact quoted_append name _
  | cons m ms => exact quoted_append name _

theorem ends_charsAfterElement (js : List Json) (r : List Char) :
    Ends (charsAfterElement js ++ r) := by
  cases js with
  | nil => exact ends_bracket r
  | cons j js => exact ends_comma _

theorem ends_charsAfterMember (ms : List (String × Json)) (r : List Char) :
    Ends (charsAfterMember ms ++ r) := by
  cases ms with
  | nil => exact ends_brace r
  | cons m ms => exact ends_comma _

theorem objOfNamed_map (ms : List (String × Json)) :
    objOfNamed (ms.map fun m => (some m.1, m.2)) = obj ms := by
  have hnamed : (ms.map fun m => (some m.1, m.2)).mapM
      (fun m : Option String × Json => m.1.map (·, m.2)) = some ms := by
    induction ms with
    | nil => rfl
    | cons m ms ih => rw [List.map_cons, List.mapM_cons, ih]; rfl
  rw [objOfNamed, hnamed]

theorem length_chars_pos {j : Json} (h : j.IsWhole) : 0 < j.chars.length := by
  obtain ⟨c, cs, hcons, -⟩ := exists_chars_eq_cons h
  rw [hcons]
  exact Nat.succ_pos _

/-- With so many rounds, texts of no more characters are read back. -/
structure ReadsBack (k : Nat) : Prop where
  value : ∀ {j : Json}, j.IsWhole → j.chars.length ≤ k → ∀ {r : List Char}, Ends r →
    (value k).run (j.chars ++ r) = some (j, r)
  elements : ∀ {j : Json} {js : List Json}, IsWholeElements (j :: js) →
    (charsOfElements (j :: js)).length ≤ k → ∀ r : List Char,
    (elements k).run (charsOfElements (j :: js) ++ r) = some (j :: js, r)
  members : ∀ {m : String × Json} {ms : List (String × Json)}, IsWholeMembers (m :: ms) →
    (charsOfMembers (m :: ms)).length ≤ k → ∀ r : List Char,
    (members k).run (charsOfMembers (m :: ms) ++ r) =
      some ((m :: ms).map fun m => (some m.1, m.2), r)

namespace ReadsBack

variable {k : Nat} (hk : ReadsBack k)

include hk

theorem value_succ {j : Json} (h : j.IsWhole) (hlength : j.chars.length ≤ k + 1) {r : List Char}
    (hends : Ends r) : (Json.value (k + 1)).run (j.chars ++ r) = some (j, r) := by
  cases j with
  | null => rfl
  | bool b =>
    cases b with
    | false => rfl
    | true => rfl
  | int n =>
    obtain ⟨c, cs, hcons, hstart⟩ := exists_signedDecimal_eq_cons n
    have hchars : (int n).chars = (Text.signedDecimal n).toList := rfl
    rw [hchars, ← run_number n hends, hcons]
    exact run_value_number hstart
  | str s =>
    rw [chars_str, quoted_append]
    exact run_value_quote s
  | arr js =>
    cases js with
    | nil => exact run_value_emptyArray
    | cons j js =>
      -- The first element starts with neither a blank nor the closing bracket.
      have helements := hk.elements h (Nat.le_of_succ_le_succ hlength) r
      obtain ⟨c, cs, hcons, hblank, hne⟩ := exists_chars_eq_cons h.1
      have htext : charsOfElements (j :: js) ++ r = c :: (cs ++ (charsAfterElement js ++ r)) := by
        rw [charsOfElements_cons, hcons, List.cons_append, List.cons_append, List.append_assoc]
      rw [chars_arr, List.cons_append]
      rw [htext] at helements ⊢
      refine run_value_array (run_blanks fun d hd => Option.some.inj hd ▸ hblank) ?_ helements
      exact fun heq => hne (Option.some.inj heq)
  | obj ms =>
    cases ms with
    | nil => exact run_value_emptyObject
    | cons m ms =>
      have hmembers := hk.members h (Nat.le_of_succ_le_succ hlength) r
      rw [chars_obj, List.cons_append, ← objOfNamed_map (m :: ms)]
      rw [charsOfMembers_cons m.1 m.2 ms, List.cons_append] at hmembers ⊢
      exact run_value_object hmembers
  | real lexeme => simp [IsWhole] at h
  | unpaired => simp [IsWhole] at h

theorem elements_succ {j : Json} {js : List Json} (h : IsWholeElements (j :: js))
    (hlength : (charsOfElements (j :: js)).length ≤ k + 1) (r : List Char) :
    (Json.elements (k + 1)).run (charsOfElements (j :: js) ++ r) = some (j :: js, r) := by
  rw [charsOfElements_cons, List.length_append] at hlength
  rw [charsOfElements_cons, List.append_assoc]
  cases js with
  | nil =>
    rw [charsAfterElement, List.length_singleton] at hlength
    exact run_elements_last (hk.value h.1 (by omega) (ends_bracket r))
  | cons j' js =>
    -- Both the first element and what is behind its comma are shorter than the whole.
    have hpos := length_chars_pos h.1
    rw [charsAfterElement, List.length_cons] at hlength
    have hfirst := hk.value h.1 (by omega) (ends_charsAfterElement (j' :: js) r)
    have hblanks := run_blanks_chars h.2.1 (charsAfterElement js ++ r)
    rw [← List.append_assoc, ← charsOfElements_cons] at hblanks
    exact run_elements_more hfirst hblanks (hk.elements h.2 (by omega) r)

theorem members_succ {m : String × Json} {ms : List (String × Json)}
    (h : IsWholeMembers (m :: ms)) (hlength : (charsOfMembers (m :: ms)).length ≤ k + 1)
    (r : List Char) : (Json.members (k + 1)).run (charsOfMembers (m :: ms) ++ r) =
      some ((m :: ms).map fun m => (some m.1, m.2), r) := by
  obtain ⟨name, j⟩ := m
  have hblanks := run_blanks_chars h.1 (charsAfterMember ms ++ r)
  have htext : charsOfMembers ((name, j) :: ms) ++ r = '"' ::
      (escape name.toList ++ '"' :: ':' :: (j.chars ++ (charsAfterMember ms ++ r))) := by
    simp [charsOfMembers_cons]
  -- The name takes its quotes and the colon at least.
  have hlength' : j.chars.length + (charsAfterMember ms).length < k := by
    rw [charsOfMembers_cons] at hlength
    simp only [List.length_cons, List.length_append] at hlength
    omega
  rw [htext]
  cases ms with
  | nil =>
    exact run_members_last name hblanks (hk.value h.1 (by omega) (ends_brace r))
  | cons m' ms =>
    rw [charsAfterMember, List.length_cons] at hlength'
    have hfirst := hk.value h.1 (by omega) (ends_charsAfterMember (m' :: ms) r)
    have hnext : blanks.run (charsOfMembers (m' :: ms) ++ r) =
        some ((), charsOfMembers (m' :: ms) ++ r) := by
      rw [charsOfMembers_cons m'.1 m'.2 ms, List.cons_append]
      exact run_blanks fun d hd => Option.some.inj hd ▸ by decide
    exact run_members_more name hblanks hfirst hnext (hk.members h.2 (by omega) r)

end ReadsBack

/-- Every number of rounds is enough for texts of no more characters: a round
hands one less to what it reads inside, which is shorter by a character. -/
theorem readsBack (k : Nat) : ReadsBack k := by
  induction k with
  | zero =>
    refine ⟨fun h hlength => ?_, fun h hlength => ?_, fun h hlength => ?_⟩
    · exact absurd (length_chars_pos h) (by omega)
    · rw [charsOfElements_cons, List.length_append] at hlength
      exact absurd (length_chars_pos h.1) (by omega)
    · rw [charsOfMembers_cons, List.length_cons] at hlength
      omega
  | succ k hk => exact ⟨hk.value_succ, hk.elements_succ, hk.members_succ⟩

/-- **What is written is read back.** -/
theorem read?_render {j : Json} (h : j.IsWhole) : read? j.render = some j := by
  have hblanks : blanks.run j.chars = some ((), j.chars) := by
    have hchars := run_blanks_chars h []
    rwa [List.append_nil] at hchars
  -- The reader takes more rounds than the text has characters.
  have hvalue : (value (2 * j.chars.length + 2)).run j.chars = some (j, []) := by
    have hchars := (readsBack (2 * j.chars.length + 2)).value h (by omega) ends_nil
    rwa [List.append_nil] at hchars
  have hrounds : StateT.run (fun cs => (value (2 * cs.length + 2)).run cs) j.chars =
      some (j, []) := by
    rw [Scan.run_fun]
    exact hvalue
  rw [read?]
  refine Scan.whole?_of_run ?_
  rw [render, String.toList_ofList, Scan.run_bind_of hblanks, Scan.run_bind_of hrounds,
    Scan.run_bind_of ends_nil.run_blanks]
  rfl

end Json

end ApiAvailability
