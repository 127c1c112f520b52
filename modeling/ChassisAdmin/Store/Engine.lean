import ChassisAdmin.Store.Memory

/-!
# Keys found with an engine of regular expressions

A database in memory has no matcher of its own.  It writes a pattern as a regular
expression, has an engine compile that, and asks the engine about each key.  A
star becomes a run of any characters and a question mark any character.  Every
other character is escaped, and marks for the start and the end of a text stand
around the whole.

`Engine` is what is used of the engine, and what one answers is up to it.  With
an engine that goes by its documentation this comes to `Memory.matching`.
-/

namespace ChassisAdmin.Store

/-- An engine of regular expressions. -/
structure Engine where
  /-- What an expression is compiled to. -/
  Compiled : Type
  /-- Compiles an expression, or says what is wrong with it. -/
  compile : String → Except String Compiled
  /-- Whether an expression matches somewhere in a text. -/
  isMatch : Compiled → String → Bool
  /-- The expression that stands for a text. -/
  escape : String → String

namespace Engine

/-- The expression for one character of a pattern. -/
def charText (g : Engine) (c : Char) : String :=
  if c = '*' then ".*" else if c = '?' then "." else g.escape (String.singleton c)

/-- The expression for a pattern. -/
def globText (g : Engine) (pattern : String) : String :=
  pattern.toList.foldl (fun text c => text ++ g.charText c) "^" ++ "$"

/-- Compiles the expression for a pattern. -/
def compileGlob (g : Engine) (pattern : String) : Except SystemError g.Compiled :=
  (g.compile (g.globText pattern)).mapError fun message =>
    .internal ("glob " ++ pattern ++ ": " ++ message)

/-- The raw keys of a database that match a pattern. -/
def keys (g : Engine) (pattern : String) (m : Memory) : Except SystemError (List String) := do
  let expression ← g.compileGlob pattern
  return m.records.keys.filter (g.isMatch expression)

end Engine

end ChassisAdmin.Store
