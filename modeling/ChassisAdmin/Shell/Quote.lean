/-!
# Arguments of shell commands

A command is a text for a shell.  An argument in it stands between double
quotes.  Each character that has a meaning there has a backslash in front: the
dollar sign, the backquote, the double quote, the backslash and the line feed.
-/

namespace ChassisAdmin.Shell

/-- The backquote. -/
def backquote : Char := Char.ofNat 96

/-- Whether a character has a meaning between double quotes. -/
def needsBackslash (c : Char) : Bool :=
  c = '$' || c = backquote || c = '"' || c = '\\' || c = '\n'

/-- A character as it stands between double quotes. -/
def quotedChar (c : Char) : List Char := if needsBackslash c then ['\\', c] else [c]

/-- The characters of an argument between double quotes. -/
def quoteChars (cs : List Char) : List Char := '"' :: cs.flatMap quotedChar ++ ['"']

/-- An argument of a shell command. -/
def quote (s : String) : String := String.ofList (quoteChars s.toList)

example : quoteChars ['a', '$', '"'] = ['"', 'a', '\\', '$', '\\', '"', '"'] := by decide

end ChassisAdmin.Shell
