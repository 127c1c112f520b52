import ChassisAdmin.Text.Printable
import ChassisAdmin.Text.Split

/-!
# Texts shown between quotes

Reports about unexpected data show texts between double quotes.  A quote, a
backslash, a tab, a line feed, a carriage return and NUL have short escapes.
Every other character without a shape of its own is shown by its code point in
hexadecimal between braces.
-/

namespace ChassisAdmin.Text

/-- The digits of a number in lower-case hexadecimal. -/
def hexDigits (n : Nat) : List Char := Nat.toDigits 16 n

/-- A character as it is shown between double quotes. -/
def escapedChar (c : Char) : List Char :=
  if c = '\x00' then ['\\', '0']
  else if c = '\t' then ['\\', 't']
  else if c = '\n' then ['\\', 'n']
  else if c = '\r' then ['\\', 'r']
  else if c = '"' then ['\\', '"']
  else if c = '\\' then ['\\', '\\']
  else if isPrintable c then [c]
  else ['\\', 'u', '\x7b'] ++ hexDigits c.toNat ++ ['\x7d']

/-- A text between double quotes. -/
def quoted (s : String) : String :=
  String.ofList ('"' :: s.toList.flatMap escapedChar ++ ['"'])

/-- Texts between double quotes, in brackets. -/
def quotedList (ss : List String) : String := "[" ++ joined ", " (ss.map quoted) ++ "]"

/-- Pairs of texts between double quotes, in brackets. -/
def quotedPairs (ps : List (String × String)) : String :=
  "[" ++ joined ", " (ps.map fun p => "(" ++ quoted p.1 ++ ", " ++ quoted p.2 ++ ")") ++ "]"

example : '"'.toNat = 34 ∧ escapedChar '\x07' = "\\u\x7b7\x7d".toList := by decide

end ChassisAdmin.Text
