import ChassisAdmin.Toml.Quoted
import ChassisAdmin.Toml.Scalar
import ChassisAdmin.Toml.Table

/-!
# Configuration files

A configuration file is a sequence of lines.  A line holds an entry `key =
value`, a heading `[key]`, a double heading `[[key]]` or nothing, and a comment
may end it.  Lists and tables between braces may run over several lines, with
comments in them, and a comma may follow their last member.

Lists and tables lie inside each other at most `maxDepth` deep.  Reading a value
recurses on that depth.
-/

namespace ChassisAdmin.Toml

open ChassisAdmin.Text

/-- The greatest depth of lists and tables inside each other. -/
def maxDepth : Nat := 80

/-- Reads a comment. -/
def scanComment : Scan Unit := do
  scanChar '#'
  let _ ← scanWhile isTextChar

/-- Reads blanks, comments and line ends between the members of a list. -/
def scanFiller : Scan Unit := do
  let _ ← scanMany
    (scanLineEnd <|> (do scanComment; scanLineEnd) <|> (do let _ ← scanRun isSpace))

/-- Reads members with commas between them, up to a closing character. -/
def scanMembers {α : Type} (p : Scan α) (closing : Char) : Scan (List α) := do
  scanFiller
  let members ← scanOption <| scanSeparated (do scanFiller; scanChar ','; scanFiller) p
  scanFiller
  if members.isSome then
    let _ ← scanOption (scanChar ',')
    scanFiller
  scanChar closing
  return members.getD []

/-- Reads an entry, given how to read its value. -/
def scanEntryWith (value : Scan Value) : Scan (List String × String × Value) := do
  let (path, key) ← scanKey
  scanSpaces
  scanChar '='
  scanSpaces
  let v ← value
  return (path, key, v)

/-- Reads a value in which lists and tables lie inside each other at most so deep. -/
def scanValue : Nat → Scan Value
  | 0 => (do return .text (← scanQuoted)) <|> scanScalar
  | depth + 1 =>
      (do return .text (← scanQuoted)) <|>
      (do
        scanChar '['
        return .array (← scanMembers (scanValue depth) ']')) <|>
      (do
        scanChar '\x7b'
        match ofInline (← scanMembers (scanEntryWith (scanValue depth)) '\x7d') with
        | some entries => return .table .inline entries
        | none => failure) <|>
      scanScalar

/-- Reads the key of a heading between its brackets. -/
def scanHeadingKey : Scan (List String × String) := do
  scanSpaces
  let key ← scanKey
  scanSpaces
  return key

/-- Reads what a line says. -/
def scanStatement : Scan Statement :=
  (do
    scanWord ['[', '[']
    let (path, key) ← scanHeadingKey
    scanWord [']', ']']
    return .listHeading path key) <|>
  (do
    scanChar '['
    let (path, key) ← scanHeadingKey
    scanChar ']'
    return .heading path key) <|>
  (do
    let (path, key, v) ← scanEntryWith (scanValue maxDepth)
    return .entry path key v)

/-- Reads a line without its end. -/
def scanLine : Scan (Option Statement) := do
  scanSpaces
  let statement ← scanOption scanStatement
  scanSpaces
  let _ ← scanOption scanComment
  return statement

/-- Reads the lines of a file. -/
def scanLines : Scan (List Statement) := do
  let lines ← scanSeparated scanLineEnd scanLine
  return lines.filterMap id

/-- The mark that may stand in front of a file. -/
def byteOrderMark : Char := '\uFEFF'

/-- The table that a file is, unless it is invalid. -/
def parse (content : String) : Option Entries :=
  let cs := match content.toList with
    | c :: r => if c = byteOrderMark then r else c :: r
    | [] => []
  (wholeText scanLines cs).bind ofStatements

end ChassisAdmin.Toml
