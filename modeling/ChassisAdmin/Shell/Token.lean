import ChassisAdmin.Shell.Word

/-!
# Tokens of the shell's language

A script is words and the operators between them.  A line feed is a token of its
own, and a comment runs from a sign at the beginning of a word to the end of the
line.  Each token comes with the number of its line.  What cannot be read is a
token too, the last one, so that a mistake in front of it is found first.
-/

namespace ChassisAdmin.Shell

/-- A token. -/
inductive Token where
  /-- A word. -/
  | word (w : Word)
  /-- An operator between commands. -/
  | operator (text : String)
  /-- A redirection of a stream. -/
  | redirection (stream : Nat) (text : String)
  /-- The end of a line. -/
  | newline
  /-- Text that cannot be read. -/
  | fault (cause : Fault)
  deriving DecidableEq, Repr

/-- A token as a fault names it. -/
def Token.shown : Token → String
  | word _ => "word"
  | operator text => "\"" ++ text ++ "\""
  | redirection .. => "redirection"
  | newline => "newline"
  | fault _ => endOfFile

/-- The first of some texts with which characters begin. -/
def beginsWith (texts : List String) (cs : List Char) : Option String :=
  texts.find? fun t => t.toList.isPrefixOf cs

/-- The operators between commands.  Each stands in front of those it begins with. -/
def operators : List String := ["&&", "||", ";;", "|", "&", ";", "(", ")"]

/-- The redirections.  Each stands in front of those it begins with. -/
def redirections : List String := [">&", ">>", ">|", "<&", "<>", ">", "<"]

/-- The stream that a redirection is of where it does not say. -/
def usualStream (text : String) : Nat := if text.startsWith "<" then 0 else 1

/-- The redirection at the front of a text, with the number of characters it takes. -/
def redirectionAt (cs : List Char) : Option (Token × Nat) :=
  match cs with
  | c :: r =>
      match (if c.isDigit then beginsWith redirections r else none) with
      | some text => some (.redirection (c.toNat - '0'.toNat) text, text.length + 1)
      | none =>
          (beginsWith redirections cs).map fun text =>
            (.redirection (usualStream text) text, text.length)
  | [] => none

/-- The tokens of a text, of which so many characters have been read already, with the numbers of
their lines. -/
def tokensFrom : Nat → Nat → List Char → List (Nat × Token)
  | _, _, [] => []
  | skip + 1, line, c :: cs => tokensFrom skip (if c = '\n' then line + 1 else line) cs
  | 0, line, c :: cs =>
      if c = '\n' then (line, .newline) :: tokensFrom 0 (line + 1) cs
      else if c = ' ' ∨ c = '\t' then tokensFrom 0 line cs
      else if c = '#' then tokensFrom (cs.takeWhile (· ≠ '\n')).length line cs
      else
        match redirectionAt (c :: cs) with
        | some (t, n) => (line, t) :: tokensFrom (n - 1) line cs
        | none =>
            match beginsWith operators (c :: cs) with
            | some text => (line, .operator text) :: tokensFrom (text.length - 1) line cs
            | none =>
                match readWord (c :: cs) with
                | .error f => [(line, .fault f)]
                | .ok ([], n) => tokensFrom (n - 1) line cs
                | .ok (w, n) => (line, .word w) :: tokensFrom (n - 1) line cs

/-- The tokens of a script. -/
def tokens (script : List Char) : List (Nat × Token) := tokensFrom 0 1 script

example : (tokens "a 2>&1;b&&c # d".toList).map (·.2) =
    [.word [.char 'a' false], .redirection 2 ">&", .word [.char '1' false], .operator ";",
      .word [.char 'b' false], .operator "&&", .word [.char 'c' false]] := by decide

end ChassisAdmin.Shell
