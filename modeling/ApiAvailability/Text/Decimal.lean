/-
Whole numbers as text.

Versions, codes and argument values are written in decimal without leading
zeros, codes alone are filled up to four digits, and an architecture mask is
written as two hexadecimal digits. Reading is the other direction: a run of
ASCII digits has a value however many leading zeros it carries, and the empty
run has none.
-/
set_option autoImplicit false

namespace ApiAvailability.Text

/-! ## Writing -/

/-- The decimal digits of a number, without leading zeros. -/
def decimal (n : Nat) : String :=
  String.ofList (Nat.toDigits 10 n)

theorem not_mem_decimal (n : Nat) {c : Char} (hc : c.isDigit = false) :
    c ∉ (decimal n).toList := by
  intro hmem
  rw [decimal, String.toList_ofList] at hmem
  rw [Nat.isDigit_of_mem_toDigits (by decide) (by decide) hmem] at hc
  exact Bool.noConfusion hc

/-- The decimal text of a number that may be negative. -/
def signedDecimal : Int → String
  | .ofNat n => decimal n
  | .negSucc n => "-" ++ decimal (n + 1)

/-- The decimal digits of a number, filled with zeros on the left up to
`width` digits; a longer number keeps all of its own. -/
def paddedDecimal (width n : Nat) : String :=
  let digits := Nat.toDigits 10 n
  String.ofList (List.replicate (width - digits.length) '0' ++ digits)

/-- The digit of a number below sixteen, in lower case. -/
def hexDigit (n : Nat) : Char :=
  Nat.digitChar n

/-- The two hexadecimal digits of a byte. -/
def hexByte (b : UInt8) : String :=
  String.ofList [hexDigit (b.toNat / 16), hexDigit (b.toNat % 16)]

/-! ## Reading -/

/-- The value of a run of one or more ASCII digits; no value for any other
text. -/
def digitsValue? (cs : List Char) : Option Nat :=
  if !cs.isEmpty && cs.all Char.isDigit then some (Nat.ofDigitChars 10 cs 0) else none

/-- What is written in decimal is read back. -/
theorem digitsValue?_toDigits (n : Nat) : digitsValue? (Nat.toDigits 10 n) = some n := by
  have hne : Nat.toDigits 10 n ≠ [] := Nat.toDigits_ne_nil
  have hall : (Nat.toDigits 10 n).all Char.isDigit = true :=
    List.all_eq_true.mpr fun _ hc => Nat.isDigit_of_mem_toDigits (by decide) (by decide) hc
  simp [digitsValue?, hne, hall, Nat.ofDigitChars_ten_toDigits]

/-- The value of a hexadecimal digit of either case. -/
def hexDigitValue? (c : Char) : Option Nat :=
  if c.isDigit then some (c.toNat - '0'.toNat)
  else if 'a' ≤ c && c ≤ 'f' then some (c.toNat - 'a'.toNat + 10)
  else if 'A' ≤ c && c ≤ 'F' then some (c.toNat - 'A'.toNat + 10)
  else none

/-- The value of a run of hexadecimal digits; no value if one is not such a
digit. -/
def hexValue? (cs : List Char) : Option Nat :=
  cs.foldlM (fun v c => (hexDigitValue? c).map (16 * v + ·)) 0

/-! ## Letter case -/

/-- The text with the letters A to Z in lower case; other letters stay. -/
def asciiLower (s : String) : String :=
  String.ofList (s.toList.map Char.toLower)

/-- The text with the letters a to z in upper case; other letters stay. -/
def asciiUpper (s : String) : String :=
  String.ofList (s.toList.map Char.toUpper)

end ApiAvailability.Text
