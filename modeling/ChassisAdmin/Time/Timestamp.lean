import ChassisAdmin.Text.Scan
import ChassisAdmin.Time.DateTime

/-!
# Timestamps in the store

The start of a transition is kept in the store as text.  It is written as
`2025-01-01T12:00:00.000000`, always universal time and always six fraction
digits.  Digits beyond the sixth are cut off.  A year outside 0 to 9999 carries
a sign.

Other programs write start times too, so reading is wider than writing.  Two
forms are read, the naive one first and the zoned one only where the naive one
fails.

* Naive: `year-month-dayThour:minute:second`, then possibly a point and a
  fraction.  Blanks may stand before each number.  The year has up to four
  digits, or a sign and any number of digits.  The others have one or two.
* Zoned: four-digit year, two-digit everything else, `T`, `t` or one space
  between date and time, possibly a fraction, then `Z`, `z` or an offset
  `+hh:mm`.  The minus of an offset may be U+2212.  Offsets reach to 23:59.

A fraction has at least one digit, and digits beyond the ninth are dropped.
Second 60 is a leap second.  `scanNaive` and `scanZoned` read the two forms from
the front of a text, and a timestamp is a text of which they leave nothing over.
-/

namespace ChassisAdmin.Time

open ChassisAdmin.Text

/-! ## Writing -/

/-- A year with four digits, and with a sign when it lies outside 0 to 9999. -/
def yearChars (y : Int) : List Char :=
  if 0 ≤ y ∧ y ≤ 9999 then paddedDigits 4 y.toNat
  else (if y < 0 then '-' else '+') :: paddedDigits 4 y.natAbs

/-- The characters of a timestamp. -/
def timestampChars (t : DateTime) : List Char :=
  yearChars t.date.year ++ '-' :: paddedDigits 2 t.date.month ++ '-' :: paddedDigits 2 t.date.day ++
    'T' :: paddedDigits 2 t.hour ++ ':' :: paddedDigits 2 t.minute ++
    ':' :: paddedDigits 2 t.secondOfMinute ++ '.' :: paddedDigits 6 (t.nanoOfSecond / 1000)

/-- The timestamp of an instant. -/
def formatTimestamp (t : DateTime) : String := String.ofList (timestampChars t)

/-! ## Scanning -/

/-- Reads a year: a sign and digits, or up to four digits. -/
def scanYear : Scan Int := fun cs =>
  match cs with
  | '-' :: r => (scanDigits r).map fun n => (-(n.1 : Int), n.2)
  | '+' :: r => (scanDigits r).map fun n => ((n.1 : Int), n.2)
  | _ => (scanUpTo 4 cs).map fun n => ((n.1 : Int), n.2)

/-- The nanoseconds that the digits of a fraction stand for. -/
def fractionNanos (ds : List Char) : Nat :=
  digitsValue (ds.take 9) * Nat.pow 10 (9 - (ds.take 9).length)

/-- Reads a point and a fraction, if a point comes next. -/
def scanFraction : Scan Nat := fun cs =>
  match cs with
  | '.' :: r =>
      let ds := r.takeWhile Char.isDigit
      if ds.isEmpty then none else some (fractionNanos ds, r.dropWhile Char.isDigit)
  | _ => some (0, cs)

/-- Reads blanks and one or two digits. -/
def scanField : Scan Nat := do
  scanBlanks
  scanUpTo 2

/-- Reads the naive form. -/
def scanNaive : Scan (Option DateTime) := do
  scanBlanks
  let year ← scanYear
  scanChar '-'
  let month ← scanField
  scanChar '-'
  let day ← scanField
  scanChar 'T'
  let hour ← scanField
  scanChar ':'
  let minute ← scanField
  scanChar ':'
  let second ← scanField
  let nano ← scanFraction
  return DateTime.ofCivil? ⟨year, month, day⟩ hour minute second nano

/-- Reads an offset from universal time, in minutes. -/
def scanOffset : Scan Int := do
  let sign ← scanAny fun c => c = 'Z' || c = 'z' || c = '+' || c = '-' || c = '\u2212'
  if sign = 'Z' || sign = 'z' then
    return 0
  else
    let hours ← scanExactly 2
    scanChar ':'
    let minutes ← scanExactly 2
    if hours ≤ 23 ∧ minutes ≤ 59 then
      let offset : Int := 60 * hours + minutes
      return if sign = '+' then offset else -offset
    else
      failure

/-- Reads the zoned form. -/
def scanZoned : Scan (Option DateTime) := do
  let year ← scanExactly 4
  scanChar '-'
  let month ← scanExactly 2
  scanChar '-'
  let day ← scanExactly 2
  let _ ← scanAny fun c => c = 'T' || c = 't' || c = ' '
  let hour ← scanExactly 2
  scanChar ':'
  let minute ← scanExactly 2
  scanChar ':'
  let second ← scanExactly 2
  let nano ← scanFraction
  let offset ← scanOffset
  return do
    let local' ← DateTime.ofCivil? ⟨year, month, day⟩ hour minute second nano
    local'.addMinutes? (-offset)

/-- The instant of a timestamp in the naive form. -/
def parseNaive (s : String) : Option DateTime := (wholeText scanNaive s.toList).join

/-- The instant of a timestamp in the zoned form. -/
def parseZoned (s : String) : Option DateTime := (wholeText scanZoned s.toList).join

/-- The instant of a timestamp. -/
def parseTimestamp (s : String) : Option DateTime := parseNaive s <|> parseZoned s

end ChassisAdmin.Time
