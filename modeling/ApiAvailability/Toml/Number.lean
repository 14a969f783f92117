/-
The numbers, dates and times of a TOML document.

Underscores may stand between two digits. A whole number has 64 bits with a
sign. A number with a fraction or an exponent may be of any size as long as it
does not round to positive infinity: `1e999` is refused and `-1e999` is not. A
date must exist in the calendar, and a minute may have a second 60.
-/
import ApiAvailability.Text.Decimal
import ApiAvailability.Text.Scan
import ApiAvailability.Toml.Value
set_option autoImplicit false

namespace ApiAvailability.Toml

/-! ## Runs of digits -/

/-- Digits of a class, with single underscores between them, and what follows
them. -/
def moreDigits (isDigit : Char → Bool) : List Char → List Char × List Char
  | '_' :: c :: cs =>
    if isDigit c then
      let r := moreDigits isDigit cs
      (c :: r.1, r.2)
    else ([], '_' :: c :: cs)
  | c :: cs =>
    if isDigit c then
      let r := moreDigits isDigit cs
      (c :: r.1, r.2)
    else ([], c :: cs)
  | [] => ([], [])

/-- One digit or more, without the underscores between them. -/
def digits (isDigit : Char → Bool) : Scan (List Char) := do
  let first ← Scan.next
  if isDigit first then
    let more ← fun cs => some (moreDigits isDigit cs)
    pure (first :: more)
  else failure

/-- A sign, if there is one. -/
def sign : Scan (List Char) := do
  match ← Scan.peek with
  | some '+' => Scan.take 1
  | some '-' => Scan.take 1
  | _ => pure []

/-- The digits of a whole number in decimal: a lone zero, or digits that do not
start with one. -/
def wholeDigits : Scan (List Char) := do
  match ← Scan.peek with
  | some '0' => Scan.take 1
  | _ => digits Char.isDigit

/-! ## Whole numbers -/

/-- A number of a base that is marked by two characters. It has no sign. -/
def based (mark : List Char) (bits : Nat) (isDigit : Char → Bool) : Scan Value := do
  Scan.expect mark
  let ds ← digits isDigit
  let n := ds.foldl (fun v c => v <<< bits + (Text.hexDigitValue? c).getD 0) 0
  if n ≤ Int64.maxValue.toInt then pure (.int n) else failure

/-- A whole number in decimal. -/
def decimalInteger : Scan Value := do
  let s ← sign
  let n : Nat := Nat.ofDigitChars 10 (← wholeDigits) 0
  let v : Int := if s = ['-'] then -(n : Int) else n
  if Int64.minValue.toInt ≤ v ∧ v ≤ Int64.maxValue.toInt then pure (.int v) else failure

/-- A whole number in one of four bases. -/
def integer : Scan Value :=
  based ['0', 'x'] 4 (fun c => (Text.hexDigitValue? c).isSome) <|>
    based ['0', 'o'] 3 (fun c => '0' ≤ c && c ≤ '7') <|>
    based ['0', 'b'] 1 (fun c => c = '0' || c = '1') <|>
    decimalInteger

/-! ## Numbers with a fraction or an exponent -/

/-- The least number that rounds to infinity: half a step beyond the greatest
number of 64 bits in binary floating point. -/
def overflowBound : Nat := 1 <<< 1024 - 1 <<< 970

/-- Whether `mantissa · 10 ^ exponent` rounds to infinity. Far from the bound,
the number of digits decides. -/
def overflows (mantissa : Nat) (exponent : Int) : Bool :=
  if mantissa = 0 then false
  else
    let digitCount : Int := (Nat.toDigits 10 mantissa).length
    if digitCount + exponent > 310 then true
    else if digitCount + exponent < 300 then false
    else if exponent ≥ 0 then overflowBound ≤ mantissa * Nat.pow 10 exponent.toNat
    else overflowBound * Nat.pow 10 (-exponent).toNat ≤ mantissa

/-- The exponent, if one comes next. -/
def exponent? : Scan (Option Int) := do
  let mark ← Scan.peek
  if mark == some 'e' || mark == some 'E' then
    let _ ← Scan.next
    let s ← sign
    let n := Nat.ofDigitChars 10 (← digits Char.isDigit) 0
    pure (some (if s = ['-'] then -(n : Int) else n))
  else pure none

/-- An infinity, or the mark of no number. -/
def specialFloat : Scan Unit := do
  let _ ← sign
  match ← Scan.take 3 with
  | ['i', 'n', 'f'] => pure ()
  | ['n', 'a', 'n'] => pure ()
  | _ => failure

/-- A number with a fraction or an exponent, or with both. -/
def decimalFloat : Scan Unit := do
  let s ← sign
  let whole ← wholeDigits
  let fraction ← if ← Scan.accept ['.'] then digits Char.isDigit else pure []
  let exponent ← exponent?
  if fraction.isEmpty && exponent.isNone then failure
  let mantissa := Nat.ofDigitChars 10 (whole ++ fraction) 0
  if s ≠ ['-'] && overflows mantissa (exponent.getD 0 - fraction.length) then failure

/-! ## Dates and times -/

/-- A number of exactly `n` digits, from `low` to `high`. -/
def field (n low high : Nat) : Scan Nat := do
  let ds ← Scan.take n
  match Text.digitsValue? ds with
  | some v => if low ≤ v ∧ v ≤ high then pure v else failure
  | none => failure

/-- Whether the year has a 29th of February. -/
def isLeapYear (y : Nat) : Bool := y % 4 = 0 && (y % 100 ≠ 0 || y % 400 = 0)

/-- The number of days of a month. -/
def daysOfMonth (year month : Nat) : Nat :=
  if month = 2 then if isLeapYear year then 29 else 28
  else if month = 4 || month = 6 || month = 9 || month = 11 then 30
  else 31

/-- A date. -/
def date : Scan Unit := do
  let year ← field 4 0 9999
  Scan.expect ['-']
  let month ← field 2 1 12
  Scan.expect ['-']
  let _ ← field 2 1 (daysOfMonth year month)

/-- A time of the day, to the second or finer. -/
def time : Scan Unit := do
  let _ ← field 2 0 23
  Scan.expect [':']
  let _ ← field 2 0 59
  Scan.expect [':']
  let _ ← field 2 0 60
  if ← Scan.accept ['.'] then
    let _ ← Scan.takeSome Char.isDigit

/-- What may follow a date and a time: a letter, or hours and minutes with a
sign. -/
def offset : Scan Unit := do
  match ← Scan.next with
  | 'Z' => pure ()
  | 'z' => pure ()
  | '+' => shift
  | '-' => shift
  | _ => failure
where
  /-- Hours and minutes. -/
  shift : Scan Unit := do
    let _ ← field 2 0 23
    Scan.expect [':']
    let _ ← field 2 0 59

/-- What may follow a date: a mark, a time and perhaps an offset. -/
def timeOfDate : Scan Unit := do
  let mark ← Scan.next
  if mark = 'T' || mark = 't' || mark = ' ' then
    time
    let _ ← Scan.optional? offset
  else failure

/-- A date, and perhaps a time after it. -/
def dateAndTime : Scan Unit := do
  date
  let _ ← Scan.optional? timeOfDate

/-! ## All of them -/

/-- A number, a date or a time. Of one that is not a whole number, the text is
kept. -/
def number : Scan Value :=
  Value.dateTime <$> Scan.usedBy (dateAndTime <|> time) <|>
    Value.float <$> Scan.usedBy (decimalFloat <|> specialFloat) <|>
    integer

end ApiAvailability.Toml
