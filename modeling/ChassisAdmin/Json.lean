import ChassisAdmin.Text.Magnitude
import ChassisAdmin.Text.Scan

/-!
# JSON texts

Platforms describe themselves in JSON.  A text is read strictly: nothing but
blanks may stand around its value, a number has to be below infinity as a
double-precision number, and an escape may not stand for half of a surrogate
pair.  Lists and objects lie inside each other at most `maxDepth` deep.

Of members with one name the last counts.
-/

namespace ChassisAdmin.Json

open ChassisAdmin.Text

/-- A JSON value.  Nothing is kept of a number. -/
inductive Value where
  /-- The value `null`. -/
  | null
  /-- A truth value. -/
  | boolean (b : Bool)
  /-- A number. -/
  | number
  /-- A text. -/
  | text (s : String)
  /-- A list. -/
  | array (items : List Value)
  /-- An object with its members in the order of the text. -/
  | object (members : List (String × Value))

namespace Value

/-- The members of an object. -/
def members? : Value → Option (List (String × Value))
  | object members => some members
  | _ => none

/-- The member of an object that has a name and counts. -/
def member? (v : Value) (name : String) : Option Value :=
  v.members?.bind fun ms => (ms.reverse.find? (·.1 == name)).map (·.2)

/-- Whether a value is an object. -/
def isObject (v : Value) : Bool := v.members?.isSome

end Value

/-! ## Scanning -/

/-- The greatest depth of lists and objects inside each other. -/
def maxDepth : Nat := 127

/-- Whether a character may stand between the parts of a text. -/
def isGap (c : Char) : Bool := c = ' ' || c = '\t' || c = '\n' || c = '\r'

/-- Reads blanks. -/
def scanGap : Scan Unit := do
  let _ ← scanWhile isGap

/-- Reads a character and the blanks around it. -/
def scanMark (c : Char) : Scan Unit := do
  scanGap
  scanChar c
  scanGap

/-- The code point of two halves of a surrogate pair. -/
def pairCode (high low : Nat) : Nat := 0x10000 + (high - 0xD800) * 0x400 + (low - 0xDC00)

/-- Reads the code of an escape, which is two escapes for a surrogate pair. -/
def scanCode : Scan Char := do
  let n ← scanHex 4
  if 0xD800 ≤ n ∧ n < 0xDC00 then
    scanWord ['\\', 'u']
    let low ← scanHex 4
    if 0xDC00 ≤ low ∧ low < 0xE000 then
      return Char.ofNat (pairCode n low)
    else
      failure
  else
    match charOfCode? n with
    | some c => return c
    | none => failure

/-- Reads an escape. -/
def scanEscape : Scan Char := do
  scanChar '\\'
  match ← scanAny fun _ => true with
  | '"' => return '"'
  | '\\' => return '\\'
  | '/' => return '/'
  | 'b' => return '\x08'
  | 'f' => return '\x0c'
  | 'n' => return '\n'
  | 'r' => return '\r'
  | 't' => return '\t'
  | 'u' => scanCode
  | _ => failure

/-- Reads a text between double quotes. -/
def scanText : Scan String := do
  scanChar '"'
  let cs ← scanMany (scanAny (fun c => ' ' ≤ c && c ≠ '"' && c ≠ '\\') <|> scanEscape)
  scanChar '"'
  return String.ofList cs

/-- Reads the digits of a whole part, which do not begin with a zero unless they are one. -/
def scanWhole : Scan (List Char) := do
  let ds ← scanRun Char.isDigit
  if ds.length > 1 ∧ ds.head? = some '0' then failure else return ds

/-- Reads the digits of a fraction. -/
def scanFraction : Scan (List Char) := do
  scanChar '.'
  scanRun Char.isDigit

/-- Reads an exponent. -/
def scanExponent : Scan Int := do
  let _ ← scanAny fun c => c = 'e' || c = 'E'
  let sign ← scanOption (scanAny fun c => c = '+' || c = '-')
  let n : Int := ← scanDigits
  return if sign = some '-' then -n else n

/-- Reads a number. -/
def scanNumber : Scan Value := do
  let _ ← scanOption (scanChar '-')
  let whole ← scanWhole
  let places := (← scanOption scanFraction).getD []
  let exponent := (← scanOption scanExponent).getD 0
  if overflowsDouble (digitsValue (whole ++ places)) (exponent - places.length) then failure
  else return .number

/-- Reads a value without parts. -/
def scanScalar : Scan Value :=
  (do return .text (← scanText)) <|> scanNumber <|>
  (do scanWord ['t', 'r', 'u', 'e']; return .boolean true) <|>
  (do scanWord ['f', 'a', 'l', 's', 'e']; return .boolean false) <|>
  (do scanWord ['n', 'u', 'l', 'l']; return .null)

/-- Reads parts with commas between them, up to a closing character. -/
def scanParts {α : Type} (p : Scan α) (closing : Char) : Scan (List α) := do
  scanGap
  let parts ← scanOption (scanSeparated (scanMark ',') p)
  scanGap
  scanChar closing
  return parts.getD []

/-- Reads a member of an object, given how to read its value. -/
def scanMember (value : Scan Value) : Scan (String × Value) := do
  let name ← scanText
  scanMark ':'
  return (name, ← value)

/-- Reads a value in which lists and objects lie inside each other at most so deep. -/
def scanValue : Nat → Scan Value
  | 0 => scanScalar
  | depth + 1 =>
      scanScalar <|>
      (do
        scanChar '['
        return .array (← scanParts (scanValue depth) ']')) <|>
      (do
        scanChar '\x7b'
        return .object (← scanParts (scanMember (scanValue depth)) '\x7d'))

/-- Reads a value and the blanks around it. -/
def scanDocument : Scan Value := do
  scanGap
  let v ← scanValue maxDepth
  scanGap
  return v

/-- The value of a text, unless the text is malformed. -/
def parse (s : String) : Option Value := wholeText scanDocument s.toList

end ChassisAdmin.Json
