/-
Diagnostics as JSON lines are framed by their newlines, and nothing is lost.

The text of a value holds no control character (`noControl_chars`), so the newlines
of the output are those that end a line, and cutting the output at its newlines
gives back the objects (`splitOn_jsonLines`). Each object is read back as the value
that was written (`Json.read?_render`), and this value determines the diagnostic
(`toLineJson_injective`): a code is in it by its text alone, but digits that were
filled up with zeros keep their value, and a number with five digits keeps them all.
-/
import ApiAvailability.Diagnostic.JsonLines
import ApiAvailability.Proofs.Numeral
import ApiAvailability.Proofs.ReadBack

set_option autoImplicit false

namespace ApiAvailability

/-! ## Control characters -/

namespace Json

/-- No character is a control character below U+0020. -/
def NoControl (cs : List Char) : Prop := ∀ c ∈ cs, 0x20 ≤ c.toNat

instance (cs : List Char) : Decidable (NoControl cs) :=
  List.decidableBAll (fun c : Char => 0x20 ≤ c.toNat) cs

theorem noControl_append_iff (cs ds : List Char) :
    NoControl (cs ++ ds) ↔ NoControl cs ∧ NoControl ds :=
  List.forall_mem_append

theorem noControl_cons_iff (c : Char) (cs : List Char) :
    NoControl (c :: cs) ↔ 0x20 ≤ c.toNat ∧ NoControl cs :=
  List.forall_mem_cons

theorem noControl_toDigits (n : Nat) : NoControl (Nat.toDigits 10 n) := by
  intro c hc
  have hdigit := isDigit_of_mem_toDigits hc
  simp only [Char.isDigit, Bool.and_eq_true, decide_eq_true_eq, ge_iff_le,
    UInt32.le_iff_toNat_le] at hdigit
  exact Nat.le_trans (by decide) hdigit.1

theorem noControl_escapeChar (c : Char) : NoControl (escapeChar c) := by
  have hhex : ∀ k < 16, 0x20 ≤ (Text.hexDigit k).toNat := by decide
  rcases escapeChar_cases c with ⟨-, d, hd, hescape⟩ | ⟨hcontrol, -, hescape⟩ |
    ⟨hplain, -, -, -, hescape⟩
  · have hletters : NoControl ['"', '\\', 'b', 'f', 'n', 'r', 't'] := by decide
    rw [hescape, noControl_cons_iff]
    exact ⟨by decide, fun c hc => List.mem_singleton.1 hc ▸ hletters d hd⟩
  · rw [hescape]
    simp [NoControl, hhex (c.toNat / 16) (by omega), hhex (c.toNat % 16) (by omega)]
  · rw [hescape]
    simpa [NoControl] using hplain

theorem noControl_quoted (s : String) : NoControl (quoted s) := by
  have hescape : NoControl (escape s.toList) := by
    intro c hc
    obtain ⟨d, -, hd⟩ := List.mem_flatMap.1 hc
    exact noControl_escapeChar d c hd
  rw [quoted, noControl_cons_iff, noControl_append_iff]
  exact ⟨by decide, hescape, by decide⟩

theorem noControl_signedDecimal (n : Int) : NoControl (Text.signedDecimal n).toList := by
  cases n with
  | ofNat k =>
    rw [Text.signedDecimal, Text.decimal, String.toList_ofList]
    exact noControl_toDigits k
  | negSucc k =>
    rw [Text.signedDecimal, Text.decimal, String.toList_append, String.toList_ofList,
      String.toList_ofList, noControl_append_iff]
    exact ⟨by decide, noControl_toDigits (k + 1)⟩

mutual

/-- **The text of a value has no control character.** -/
theorem noControl_chars : ∀ {j : Json}, j.IsWhole → NoControl j.chars
  | null, _ => by decide
  | bool true, _ => by decide
  | bool false, _ => by decide
  | int n, _ => noControl_signedDecimal n
  | str s, _ => noControl_quoted s
  | arr js, h => by
    rw [chars_arr, noControl_cons_iff]
    exact ⟨by decide, noControl_charsOfElements h⟩
  | obj ms, h => by
    rw [chars_obj, noControl_cons_iff]
    exact ⟨by decide, noControl_charsOfMembers h⟩

theorem noControl_charsOfElements : ∀ {js : List Json}, IsWholeElements js →
    NoControl (charsOfElements js)
  | [], _ => by decide
  | [j], h => by
    rw [charsOfElements, noControl_append_iff]
    exact ⟨noControl_chars h.1, by decide⟩
  | j :: j' :: js, h => by
    rw [charsOfElements_cons, charsAfterElement, noControl_append_iff, noControl_cons_iff]
    exact ⟨noControl_chars h.1, by decide, noControl_charsOfElements h.2⟩

theorem noControl_charsOfMembers : ∀ {ms : List (String × Json)}, IsWholeMembers ms →
    NoControl (charsOfMembers ms)
  | [], _ => by decide
  | [(name, j)], h => by
    rw [charsOfMembers, noControl_append_iff, noControl_cons_iff, noControl_append_iff]
    exact ⟨noControl_quoted name, by decide, noControl_chars h.1, by decide⟩
  | (name, j) :: m :: ms, h => by
    have hrest := noControl_charsOfMembers h.2
    show NoControl (quoted name ++ ':' :: (j.chars ++ ',' :: charsOfMembers (m :: ms)))
    rw [noControl_append_iff, noControl_cons_iff, noControl_append_iff, noControl_cons_iff]
    exact ⟨noControl_quoted name, by decide, noControl_chars h.1, by decide, hrest⟩

end

theorem exists_charsOfMembers_eq (ms : List (String × Json)) :
    ∃ inner, charsOfMembers ms = inner ++ ['\x7d'] := by
  induction ms with
  | nil => exact ⟨[], rfl⟩
  | cons m ms ih =>
    obtain ⟨name, j⟩ := m
    obtain ⟨inner, hinner⟩ : ∃ inner, charsAfterMember ms = inner ++ ['\x7d'] := by
      cases ms with
      | nil => exact ⟨[], rfl⟩
      | cons m ms =>
        obtain ⟨inner, hinner⟩ := ih
        exact ⟨',' :: inner, by rw [charsAfterMember, hinner]; rfl⟩
    refine ⟨'"' :: (escape name.toList ++ '"' :: ':' :: (j.chars ++ inner)), ?_⟩
    rw [charsOfMembers_cons, hinner]
    simp

end Json

/-! ## What a line says -/

theorem Code.display_injective {c c' : Code} (h : c.display = c'.display) : c = c' := by
  obtain ⟨⟨⟩, number⟩ := c
  obtain ⟨⟨⟩, number'⟩ := c'
  -- There is one mark, so it is the digits that tell codes apart.
  have hpadded : Text.paddedDecimal 4 number.toNat = Text.paddedDecimal 4 number'.toNat :=
    String.append_right_inj _ |>.1 h
  have hvalue := Text.digitsValue?_paddedDecimal 4 number.toNat
  rw [hpadded, Text.digitsValue?_paddedDecimal] at hvalue
  rw [UInt16.toNat_inj.1 (Option.some.inj hvalue).symm]

theorem Severity.name_injective {s s' : Severity} (h : s.name = s'.name) : s = s' := by
  have hname := congrArg ofName? h
  rw [ofName?_name, ofName?_name] at hname
  exact Option.some.inj hname

theorem Json.orNull_injective {α : Type} {f : α → Json} (hf : ∀ a b, f a = f b → a = b)
    (hnull : ∀ a, f a ≠ .null) {a b : Option α} (h : orNull f a = orNull f b) : a = b := by
  cases a with
  | none =>
    cases b with
    | none => rfl
    | some b => exact absurd h.symm (hnull b)
  | some a =>
    cases b with
    | none => exact absurd h (hnull a)
    | some b => rw [hf a b h]

theorem Location.toLineJson_injective {l l' : Location} (h : l.toLineJson = l'.toLineJson) :
    l = l' := by
  obtain ⟨path, line, column⟩ := l
  obtain ⟨path', line', column'⟩ := l'
  simp only [toLineJson, Json.obj.injEq, List.cons.injEq, Prod.mk.injEq, true_and, and_true,
    Json.int.injEq, Json.str.injEq, Int.natCast_inj, UInt32.toNat_inj] at h
  obtain ⟨hcolumn, hline, hpath⟩ := h
  rw [hpath, hline, hcolumn]

theorem Json.map_str_injective {ss ss' : List String} (h : ss.map Json.str = ss'.map Json.str) :
    ss = ss' :=
  (List.map_inj_right fun _ _ hstr => Json.str.inj hstr).1 h

namespace Diagnostic

/-- **A line says everything** about its diagnostic. -/
theorem toLineJson_injective {d d' : Diagnostic} (h : d.toLineJson = d'.toLineJson) : d = d' := by
  obtain ⟨severity, code, message, location, notes, help⟩ := d
  obtain ⟨severity', code', message', location', notes', help'⟩ := d'
  simp only [toLineJson, Severity.toJson, Json.obj.injEq, List.cons.injEq, Prod.mk.injEq,
    true_and, and_true, Json.str.injEq, Json.arr.injEq] at h
  -- The rule and its title are left: they follow from the code.
  obtain ⟨hcode, hhelp, hlocation, hmessage, hnotes, -, hseverity, -⟩ := h
  rw [Code.display_injective hcode, Json.map_str_injective hhelp, hmessage,
    Json.map_str_injective hnotes, Severity.name_injective hseverity,
    Json.orNull_injective (fun _ _ => Location.toLineJson_injective) (fun _ => nofun) hlocation]

theorem isWhole_toLineJson (d : Diagnostic) : d.toLineJson.IsWhole := by
  have htexts (ss : List String) : Json.IsWholeElements (ss.map .str) :=
    (Json.isWholeElements_iff _).2 fun j hj => by
      obtain ⟨s, -, rfl⟩ := List.mem_map.1 hj
      trivial
  have hrule (f : Rule → String) (rule : Option Rule) :
      (Json.orNull (fun r => .str (f r)) rule).IsWhole := by
    cases rule with
    | none => trivial
    | some r => trivial
  have hlocation : (Json.orNull Location.toLineJson d.location).IsWhole := by
    cases d.location with
    | none => trivial
    | some l => exact ⟨trivial, trivial, trivial, trivial⟩
  rw [toLineJson, Json.IsWhole]
  simp only [Json.IsWholeMembers, Severity.toJson, Json.IsWhole, htexts, hlocation, hrule, and_self]

/-! ## Cutting the output at its newlines -/

theorem toList_jsonLine (d : Diagnostic) : d.jsonLine.toList = d.toLineJson.chars ++ ['\n'] := by
  rw [jsonLine, String.toList_append, Json.render, String.toList_ofList]
  rfl

theorem toList_jsonLines (ds : List Diagnostic) :
    (jsonLines ds).toList = ds.flatMap fun d => d.toLineJson.chars ++ ['\n'] := by
  rw [jsonLines, String.toList_join, List.flatMap_map]
  exact congrArg (ds.flatMap ·) (funext toList_jsonLine)

theorem newline_notMem_chars (d : Diagnostic) : '\n' ∉ d.toLineJson.chars := fun h =>
  absurd (Json.noControl_chars d.isWhole_toLineJson _ h) (by decide)

/-- **The lines are the objects**, and behind the last newline there is nothing. -/
theorem splitOn_jsonLines (ds : List Diagnostic) :
    (jsonLines ds).toList.splitOn '\n' = ds.map (·.toLineJson.chars) ++ [[]] := by
  rw [toList_jsonLines]
  induction ds with
  | nil => exact List.splitOn_nil '\n'
  | cons d ds ih =>
    rw [List.flatMap_cons, List.append_assoc, List.singleton_append,
      List.splitOn_append_cons_self_of_not_mem (newline_notMem_chars d), ih]
    rfl

theorem filter_control_jsonLines (ds : List Diagnostic) :
    (jsonLines ds).toList.filter (·.toNat < 0x20) = List.replicate ds.length '\n' := by
  have hobject (d : Diagnostic) : d.toLineJson.chars.filter (·.toNat < 0x20) = [] :=
    List.filter_eq_nil_iff.2 fun c hc => by
      have hplain := Json.noControl_chars d.isWhole_toLineJson c hc
      simpa using hplain
  rw [toList_jsonLines]
  induction ds with
  | nil => rfl
  | cons d ds ih =>
    rw [List.flatMap_cons, List.filter_append, List.filter_append, hobject, ih,
      List.length_cons, List.replicate_succ]
    rfl

theorem chars_toLineJson_injective {d d' : Diagnostic}
    (h : d.toLineJson.chars = d'.toLineJson.chars) : d = d' := by
  have hread := Json.read?_render d.isWhole_toLineJson
  rw [Json.render, h] at hread
  exact toLineJson_injective (Option.some.inj (hread.symm.trans
    (Json.read?_render d'.isWhole_toLineJson)))

theorem jsonLines_injective : Function.Injective jsonLines := by
  intro ds ds' h
  have hcut := congrArg (List.splitOn '\n' ·.toList) h
  simp only [splitOn_jsonLines, List.append_cancel_right_eq] at hcut
  exact (List.map_inj_right fun _ _ => chars_toLineJson_injective).1 hcut

/-- **JSON lines frame themselves and lose nothing.** The control characters of the output
are one newline for each diagnostic. What stands between two of them is an object, from its
brace to its brace, and nothing stands behind the last. Each object is read back, and two
lists of diagnostics with one output are the same. -/
theorem jsonLines_lossless :
    (∀ ds : List Diagnostic,
      (jsonLines ds).toList.filter (·.toNat < 0x20) = List.replicate ds.length '\n' ∧
      (jsonLines ds).toList.splitOn '\n' = ds.map (·.toLineJson.chars) ++ [[]]) ∧
    (∀ d : Diagnostic,
      (∃ inner, d.toLineJson.chars = '\x7b' :: (inner ++ ['\x7d'])) ∧
      Json.read? d.toLineJson.render = some d.toLineJson) ∧
    (∀ ds ds' : List Diagnostic, jsonLines ds = jsonLines ds' → ds = ds') := by
  refine ⟨fun ds => ⟨filter_control_jsonLines ds, splitOn_jsonLines ds⟩, fun d => ⟨?_, ?_⟩, ?_⟩
  · obtain ⟨inner, hinner⟩ := Json.exists_charsOfMembers_eq _
    exact ⟨inner, congrArg (List.cons '\x7b') hinner⟩
  · exact Json.read?_render d.isWhole_toLineJson
  · exact fun ds ds' h => jsonLines_injective h

/-- A note and a help added in either order give one output, and so one diagnostic; a quote
and a comma inside a note are not the end of it. -/
theorem jsonLines_lossless_quoted :
    (jsonLines [((plain .warning ⟨.apple, 10002⟩ "\"\\\n\x01é").addNote "n").addHelp "h"] =
        jsonLines [((plain .warning ⟨.apple, 10002⟩ "\"\\\n\x01é").addHelp "h").addNote "n"] ∧
      [((plain .warning ⟨.apple, 10002⟩ "\"\\\n\x01é").addNote "n").addHelp "h"] =
        [((plain .warning ⟨.apple, 10002⟩ "\"\\\n\x01é").addHelp "h").addNote "n"]) ∧
    jsonLines [(plain .hidden ⟨.apple, 0⟩ "").addNote "a\",\"b"] ≠
      jsonLines [((plain .hidden ⟨.apple, 0⟩ "").addNote "a").addNote "b"] :=
  ⟨⟨rfl, jsonLines_lossless.2.2 _ _ rfl⟩, fun h =>
    absurd (jsonLines_lossless.2.2 _ _ h) (by decide)⟩

end Diagnostic

end ApiAvailability
