/-
Blank characters, and text without the blanks at its two ends.

A platform or a version written by hand may be surrounded by blanks of any
script, so the class is the Unicode property `White_Space` and not the six
characters of ASCII: a no-break space or an ideographic space goes, while a
zero-width space (U+200B) or a byte order mark (U+FEFF) is text and stays.
-/
set_option autoImplicit false

namespace ApiAvailability.Text

/-! ## The class -/

/-- The code points with the property `White_Space`, as ranges with both ends
included, in increasing order. -/
def blankRanges : List (Nat × Nat) :=
  [(0x9, 0xD), (0x20, 0x20), (0x85, 0x85), (0xA0, 0xA0), (0x1680, 0x1680), (0x2000, 0x200A),
    (0x2028, 0x2029), (0x202F, 0x202F), (0x205F, 0x205F), (0x3000, 0x3000)]

/-- A character is blank when its code point lies in one of the ranges. -/
def isBlank (c : Char) : Bool :=
  blankRanges.any fun r => r.1 ≤ c.toNat && c.toNat ≤ r.2

/-! ## Trimming -/

/-- The characters without the blanks at the end. -/
def dropBlankEnd (cs : List Char) : List Char :=
  (cs.reverse.dropWhile isBlank).reverse

/-- The characters without the blanks at the start and at the end. -/
def trimChars (cs : List Char) : List Char :=
  dropBlankEnd (cs.dropWhile isBlank)

/-- The text without the blanks at its two ends; blanks inside it stay. -/
def trim (s : String) : String :=
  String.ofList (trimChars s.toList)

/-- Blanks before a text do not matter to what is left of it. -/
theorem trimChars_append_of_blank {b : List Char} (hb : ∀ c ∈ b, isBlank c) (cs : List Char) :
    trimChars (b ++ cs) = trimChars cs := by
  induction b with
  | nil => rfl
  | cons c b ih =>
    have hc : isBlank c = true := hb c (by simp)
    have := ih fun d hd => hb d (by simp [hd])
    simpa [trimChars, List.dropWhile_cons, hc] using this

/-- A text that starts and ends with a character that is not blank is its own
trimmed form. -/
theorem trimChars_eq_self {cs : List Char} (hfirst : ∀ c ∈ cs.head?, isBlank c = false)
    (hlast : ∀ c ∈ cs.getLast?, isBlank c = false) : trimChars cs = cs := by
  have hstart : cs.dropWhile isBlank = cs := by
    cases cs with
    | nil => rfl
    | cons c r => simp [hfirst c (by simp)]
  have hend : cs.reverse.dropWhile isBlank = cs.reverse := by
    cases h : cs.reverse with
    | nil => rfl
    | cons c r =>
      have : cs.getLast? = some c := by
        rw [← List.head?_reverse, h]; rfl
      simp [hlast c (by simp [this])]
  rw [trimChars, hstart, dropBlankEnd, hend, List.reverse_reverse]

end ApiAvailability.Text
