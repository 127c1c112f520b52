import ChassisAdmin.Text.Magnitude
import ChassisAdmin.Text.Scan
import ChassisAdmin.Time.Calendar
import ChassisAdmin.Toml.Value

/-!
# Numbers, truth values and moments of a configuration file

A scalar without quotes is a run of letters, digits and the characters `_+-.:`.
It is a truth value, an integer, a decimal or a moment, and anything else is an
error.

* Integers are in base ten, with a sign or without and with no leading zeros, or
  in base 16, 8 or 2 after `0x`, `0o` or `0b`, without a sign.  An underscore may
  stand between two digits.
* Decimals have a fraction, an exponent or both.  `inf` and `nan` are decimals.
* Moments are dates, times of day, and both with `T`, `t` or a space between
  them, possibly with an offset.  Seconds may be left out.
-/

namespace ChassisAdmin.Toml

open ChassisAdmin.Text

/-! ## Numbers -/

/-- Reads digits of a base, between which single underscores may stand. -/
def scanGroupedDigits (base : Nat) : Scan (List Char) := do
  let isDigit (c : Char) : Bool := (hexValue? c).any (· < base)
  let groups ← scanSeparated (scanChar '_') (scanRun isDigit)
  return groups.flatten

/-- Reads a sign, if there is one, and says whether it is a minus. -/
def scanSign : Scan Bool := do
  let sign ← scanOption (scanAny fun c => c = '+' || c = '-')
  return sign = some '-'

/-- Reads the digits of an integer in base ten, which do not begin with a zero unless they are
one. -/
def scanWholePart : Scan (List Char) := do
  let ds ← scanGroupedDigits 10
  if ds.length > 1 ∧ ds.head? = some '0' then failure else return ds

/-- Reads an integer in base ten. -/
def scanDecimalInteger : Scan Value := do
  let negative ← scanSign
  let ds ← scanWholePart
  let n : Int := digitsValue ds
  return .integer (if negative then -n else n)

/-- Reads an integer in another base, after the letter of the base. -/
def scanBasedInteger (letter : Char) (base : Nat) : Scan Value := do
  scanChar '0'
  scanChar letter
  let ds ← scanGroupedDigits base
  return .integer (digitsValueIn base ds)

/-- Reads an exponent. -/
def scanExponent : Scan Int := do
  let _ ← scanAny fun c => c = 'e' || c = 'E'
  let negative ← scanSign
  let ds ← scanGroupedDigits 10
  let n : Int := digitsValue ds
  return if negative then -n else n

/-- Reads the digits of a fraction. -/
def scanFractionDigits : Scan (List Char) := do
  scanChar '.'
  scanGroupedDigits 10

/-- Reads a decimal with a fraction, an exponent or both. -/
def scanDecimal : Scan Value := do
  let _ ← scanSign
  let whole ← scanWholePart
  let fraction ← scanOption scanFractionDigits
  let exponent ← scanOption scanExponent
  if fraction.isNone ∧ exponent.isNone then
    failure
  else
    let places := fraction.getD []
    let m := digitsValue (whole ++ places)
    return .decimal (!overflowsDouble m (exponent.getD 0 - places.length))

/-- Reads a decimal that is no number of digits. -/
def scanSpecialDecimal : Scan Value := do
  let _ ← scanSign
  scanWord ['i', 'n', 'f'] <|> scanWord ['n', 'a', 'n']
  return .decimal true

/-! ## Truth values and moments -/

/-- Reads a truth value. -/
def scanBoolean : Scan Value :=
  (do scanWord ['t', 'r', 'u', 'e']; return .boolean true) <|>
    (do scanWord ['f', 'a', 'l', 's', 'e']; return .boolean false)

/-- Reads a date. -/
def scanDate : Scan Unit := do
  let year ← scanExactly 4
  scanChar '-'
  let month ← scanExactly 2
  scanChar '-'
  let day ← scanExactly 2
  if (Time.Date.mk year month day).isValid then return () else failure

/-- Reads a number of two digits up to a bound. -/
def scanTwoDigits (most : Nat) : Scan Unit := do
  let n ← scanExactly 2
  if n ≤ most then return () else failure

/-- Reads the seconds of a time of day. -/
def scanSeconds : Scan Unit := do
  scanChar ':'
  scanTwoDigits 60
  let _ ← scanOption do
    scanChar '.'
    scanDigits

/-- Reads a time of day. -/
def scanTime : Scan Unit := do
  scanTwoDigits 23
  scanChar ':'
  scanTwoDigits 59
  let _ ← scanOption scanSeconds

/-- Reads an offset from universal time. -/
def scanMomentOffset : Scan Unit := do
  let sign ← scanAny fun c => c = 'Z' || c = 'z' || c = '+' || c = '-'
  if sign = '+' || sign = '-' then
    scanTwoDigits 23
    scanChar ':'
    scanTwoDigits 59

/-- Reads a date, possibly with a time of day and an offset. -/
def scanDateTime : Scan Value := do
  scanDate
  let _ ← scanOption do
    let _ ← scanAny fun c => c = 'T' || c = 't' || c = ' '
    scanTime
    scanOption scanMomentOffset
  return .moment

/-- Reads a time of day. -/
def scanTimeOfDay : Scan Value := do
  scanTime
  return .moment

/-! ## Scalars -/

/-- Whether a character may stand in a scalar without quotes. -/
def isScalarChar (c : Char) : Bool :=
  c.isAlphanum || c = '_' || c = '+' || c = '-' || c = '.' || c = ':'

/-- The value of a scalar without quotes. -/
def scalarOf (cs : List Char) : Option Value :=
  [scanBoolean, scanDecimalInteger, scanBasedInteger 'x' 16, scanBasedInteger 'o' 8,
    scanBasedInteger 'b' 2, scanDecimal, scanSpecialDecimal, scanDateTime,
    scanTimeOfDay].findSome? fun scan => wholeText scan cs

/-- Reads the characters of a scalar without quotes.  After a date, a space and a digit belong to
it too. -/
def scanScalarChars : Scan (List Char) := fun cs =>
  match scanRun isScalarChar cs with
  | none => none
  | some (token, rest) =>
      match (wholeText scanDate token), rest with
      | some (), ' ' :: c :: r =>
          if c.isDigit then
            let more := (c :: r).takeWhile isScalarChar
            some (token ++ ' ' :: more, (c :: r).drop more.length)
          else some (token, rest)
      | _, _ => some (token, rest)

/-- Reads a scalar without quotes. -/
def scanScalar : Scan Value := do
  let token ← scanScalarChars
  match scalarOf token with
  | some v => return v
  | none => failure

end ChassisAdmin.Toml
