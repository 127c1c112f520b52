import ChassisAdmin.Text.Scan

/-!
# Quoted texts of a configuration file

A text stands between double quotes, where a backslash begins an escape, or
between single quotes, where every character stands for itself.  Between three
quotes of a kind a text may run over several lines.

* No control character but the tab may stand in a text.  Texts of several lines
  may also hold line ends.  A carriage return belongs to a line end or is an
  error, and a line end counts as a line feed.
* The line end right after three opening quotes does not count.
* Between three double quotes, a backslash at the end of a line takes away the
  line end and all blanks and line ends after it.
* One or two quotes may stand before three closing ones.
-/

namespace ChassisAdmin.Toml

open ChassisAdmin.Text

/-! ## Characters -/

/-- Whether a character may stand in a text or in a comment. -/
def isTextChar (c : Char) : Bool := c = '\t' || (' ' ≤ c && c ≠ '\x7f')

/-- Whether a character is a blank within a line. -/
def isSpace (c : Char) : Bool := c = ' ' || c = '\t'

/-- Reads blanks within a line. -/
def scanSpaces : Scan Unit := do
  let _ ← scanWhile isSpace

/-- Reads a line end. -/
def scanLineEnd : Scan Unit := do
  let _ ← scanOption (scanChar '\r')
  scanChar '\n'

/-- Reads the code point of an escape. -/
def scanCodePoint (digits : Nat) : Scan (List Char) := do
  match charOfCode? (← scanHex digits) with
  | some c => return [c]
  | none => failure

/-- Reads what follows a backslash. -/
def scanEscaped : Scan (List Char) := do
  match ← scanAny fun _ => true with
  | 'b' => return ['\x08']
  | 't' => return ['\t']
  | 'n' => return ['\n']
  | 'f' => return ['\x0c']
  | 'r' => return ['\r']
  | 'e' => return ['\x1b']
  | '"' => return ['"']
  | '\\' => return ['\\']
  | 'x' => scanCodePoint 2
  | 'u' => scanCodePoint 4
  | 'U' => scanCodePoint 8
  | _ => failure

/-- Reads a backslash and what follows it. -/
def scanEscape : Scan (List Char) := do
  scanChar '\\'
  scanEscaped

/-- Reads a line end as a line feed. -/
def scanNewline : Scan (List Char) := do
  scanLineEnd
  return ['\n']

/-- Reads a backslash at the end of a line, and the blanks and line ends after it. -/
def scanContinuation : Scan (List Char) := do
  scanChar '\\'
  scanSpaces
  scanLineEnd
  let _ ← scanMany (scanLineEnd <|> (do let _ ← scanRun isSpace))
  return []

/-- Reads one character that stands for itself. -/
def scanPlain (p : Char → Bool) : Scan (List Char) := do
  let c ← scanAny p
  return [c]

/-! ## Texts of one line -/

/-- Reads a text between double quotes. -/
def scanBasic : Scan String := do
  scanChar '"'
  let parts ← scanMany (scanPlain (fun c => isTextChar c && c ≠ '"' && c ≠ '\\') <|> scanEscape)
  scanChar '"'
  return String.ofList parts.flatten

/-- Reads a text between single quotes. -/
def scanLiteral : Scan String := do
  scanChar '\''
  let cs ← scanWhile fun c => isTextChar c && c ≠ '\''
  scanChar '\''
  return String.ofList cs

/-! ## Texts of several lines -/

/-- Reads one or two quotes that are not part of three. -/
def scanFewQuotes (quote : Char) : Scan (List Char) := do
  let qs ← scanRun (· = quote)
  if qs.length < 3 then return qs else failure

/-- Reads the closing quotes and what of them belongs to the text. -/
def scanClosing (quote : Char) : Scan (List Char) := fun cs =>
  let n := min (cs.takeWhile (· = quote)).length 5
  if 3 ≤ n then some (List.replicate (n - 3) quote, cs.drop n) else none

/-- Reads a text of several lines from its parts. -/
def scanLong (quote : Char) (part : Scan (List Char)) : Scan String := do
  scanWord [quote, quote, quote]
  let _ ← scanOption scanLineEnd
  let parts ← scanMany (scanFewQuotes quote <|> scanNewline <|> part)
  let last ← scanClosing quote
  return String.ofList (parts.flatten ++ last)

/-- Reads a text between three double quotes. -/
def scanLongBasic : Scan String :=
  scanLong '"'
    (scanPlain (fun c => isTextChar c && c ≠ '"' && c ≠ '\\') <|> scanContinuation <|> scanEscape)

/-- Reads a text between three single quotes. -/
def scanLongLiteral : Scan String :=
  scanLong '\'' (scanPlain fun c => isTextChar c && c ≠ '\'')

/-- Reads a quoted text. -/
def scanQuoted : Scan String := scanLongBasic <|> scanLongLiteral <|> scanBasic <|> scanLiteral

/-! ## Keys -/

/-- Whether a character may stand in a key without quotes. -/
def isKeyChar (c : Char) : Bool := c.isAlphanum || c = '_' || c = '-'

/-- Reads one part of a key. -/
def scanKeyPart : Scan String := do
  scanBasic <|> scanLiteral <|> (do return String.ofList (← scanRun isKeyChar))

/-- Reads a key, whose parts stand between dots: the parts before the last, and the last. -/
def scanKey : Scan (List String × String) := do
  let parts ← scanSeparated (do scanSpaces; scanChar '.'; scanSpaces) scanKeyPart
  match parts.getLast? with
  | some last => return (parts.dropLast, last)
  | none => failure

end ChassisAdmin.Toml
