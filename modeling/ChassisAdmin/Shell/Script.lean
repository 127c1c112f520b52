import ChassisAdmin.Shell.Token

/-!
# Scripts

A script is a sequence of lines of commands.  A command is one of

* a *simple* command: assignments, words and redirections in any order, of which
  the assignments come first,
* a list in parentheses, which runs in a copy of the shell, or in braces,
* `if`, `while`, `until` and `for`,
* two commands joined by a semicolon, `&&`, `||` or a bar, and
* the negation of a command.

The words that begin and end the compound commands are only such where a command
is expected and nothing in them is quoted.

A line is read as a whole before any of it runs.  Reading is bounded by the
number of tokens, since every step from one kind of command to the next within a
token is one of a few.
-/

namespace ChassisAdmin.Shell

/-- A redirection of a stream to what a word says. -/
structure Redirection where
  /-- The stream. -/
  stream : Nat
  /-- The kind of redirection. -/
  kind : String
  /-- Where it goes. -/
  target : Word
  deriving DecidableEq, Repr

/-- A command. -/
inductive Command where
  /-- A command that does nothing. -/
  | nothing
  /-- A simple command, with the number of its line. -/
  | simple (line : Nat) (assignments : List (String × Word)) (words : List Word)
      (redirections : List Redirection)
  /-- A list that may run in a copy of the shell. -/
  | nested (ownShell : Bool) (body : Command) (redirections : List Redirection)
  /-- One command and then another. -/
  | sequence (first second : Command)
  /-- A second command if the first succeeds or, instead, fails. -/
  | conditional (onSuccess : Bool) (first second : Command)
  /-- The second command reads what the first writes. -/
  | piped (first second : Command)
  /-- The negation of a command. -/
  | negated (body : Command)
  /-- One of two commands, as a test comes out. -/
  | choice (test yes no : Command)
  /-- A command again and again while a test succeeds or, instead, fails. -/
  | loop (onSuccess : Bool) (test body : Command)
  /-- A command for each of some words. -/
  | each (name : String) (words : List Word) (body : Command)
  deriving DecidableEq, Repr

/-- A part of the reading of a script. -/
abbrev Reading (α : Type) : Type := StateT (List (Nat × Token)) (Except Fault) α

namespace Reading

/-- The next token, which is left there. -/
def next? : Reading (Option Token) := fun ts => .ok (ts.head?.map (·.2), ts)

/-- The number of the line of the next token. -/
def line : Reading Nat := fun ts => .ok ((ts.head?.map (·.1)).getD 1, ts)

/-- Passes over the next token. -/
def advance : Reading Unit := fun ts => .ok ((), ts.tail)

/-- The words that begin, divide and end compound commands. -/
def reservedWords : List String :=
  ["if", "then", "elif", "else", "fi", "while", "until", "for", "do", "done", "\x7b", "\x7d", "!"]

/-- The words after which no command of the list in front of them follows. -/
def closingWords : List String := ["then", "elif", "else", "fi", "do", "done", "\x7d"]

/-- The unquoted text of a token that is a word. -/
def bareWord? : Option Token → Option String
  | some (.word w) => (bareText w).map String.ofList
  | _ => none

/-- Fails at the next token. -/
def refuse {α : Type} (expected : Option String) : Reading α := do
  match ← next? with
  | none => throw (.unexpected endOfFile expected)
  | some (.fault f) => throw f
  | some t =>
      match bareWord? (some t) with
      | some w =>
          if reservedWords.contains w then throw (.unexpected ("\"" ++ w ++ "\"") expected)
          else throw (.unexpected t.shown expected)
      | none => throw (.unexpected t.shown expected)

/-- Whether the next token is an operator. -/
def atOperator (text : String) : Reading Bool := return (← next?) == some (.operator text)

/-- Whether the next token is an unquoted word. -/
def atWord (text : String) : Reading Bool := return bareWord? (← next?) == some text

/-- Passes over an operator that has to come next. -/
def expectOperator (text : String) : Reading Unit := do
  if ← atOperator text then advance else refuse (some text)

/-- Passes over a word that has to come next. -/
def expectWord (text : String) : Reading Unit := do
  if ← atWord text then advance else refuse (some text)

/-- Passes over the ends of lines. -/
def skipLines : Reading Unit := fun ts => .ok ((), ts.dropWhile (·.2 == .newline))

/-- Whether a text is a name. -/
def isName (s : String) : Bool := s.toList.head?.any isNameStart && s.toList.all isNameChar

/-- Splits a word that is an assignment. -/
def assignment? (w : Word) : Option (String × Word) :=
  let name := w.takeWhile fun p =>
    match p with
    | .char c false => isNameChar c
    | _ => false
  match name, w.drop name.length with
  | .char c _ :: _, .char '=' false :: rest =>
      if isNameStart c then (bareText name).map fun cs => (String.ofList cs, rest) else none
  | _, _ => none

/-- Reads redirections. -/
def redirections : Nat → Reading (List Redirection)
  | 0 => return []
  | fuel + 1 => do
      match ← next? with
      | some (.redirection stream kind) =>
          advance
          match ← next? with
          | some (.word target) =>
              advance
              return ⟨stream, kind, target⟩ :: (← redirections fuel)
          | _ => refuse none
      | _ => return []

/-- Reads the rest of a simple command. -/
def simple (line : Nat) : Nat → List (String × Word) → List Word → List Redirection →
    Reading Command
  | 0, as, ws, rs => return .simple line as.reverse ws.reverse rs
  | fuel + 1, as, ws, rs => do
      match ← next? with
      | some (.word w) =>
          advance
          match (if ws.isEmpty then assignment? w else none) with
          | some a => simple line fuel (a :: as) ws rs
          | none => simple line fuel as (w :: ws) rs
      | some (.redirection ..) => do
          let more ← redirections 1
          simple line fuel as ws (rs ++ more)
      | some (.fault f) => throw f
      | _ => return .simple line as.reverse ws.reverse rs

/-- Reads the words after `in`. -/
def wordsUntilEnd : Nat → Reading (List Word)
  | 0 => return []
  | fuel + 1 => do
      match ← next? with
      | some (.word w) =>
          advance
          return w :: (← wordsUntilEnd fuel)
      | _ => return []

/-- Whether another command of a list follows. -/
def atCommand : Reading Bool := do
  match ← next? with
  | some (.word w) => return !((bareText w).map String.ofList).any closingWords.contains
  | some (.operator "(") | some (.redirection ..) | some (.fault _) => return true
  | _ => return false

/-- Passes over the operator that ends a command, if there is one, and says whether there is.  A
command that runs in the background counts as run in a copy of the shell, with success. -/
def terminated (c : Command) : Reading (Command × Bool) := do
  if ← atOperator ";" then
    advance
    return (c, true)
  else if ← atOperator "&" then
    advance
    return (.sequence (.nested true c []) .nothing, true)
  else return (c, false)

mutual

/-- Reads a command that no operator joins to another. -/
def command : Nat → Reading Command
  | 0 => refuse none
  | fuel + 1 => do
      if ← atOperator "(" then
        advance
        let body ← list ")" fuel
        expectOperator ")"
        return .nested true body (← redirections fuel)
      else if ← atWord "\x7b" then
        advance
        let body ← list "\x7d" fuel
        expectWord "\x7d"
        return .nested false body (← redirections fuel)
      else if ← atWord "if" then
        advance
        let c ← branches fuel
        return .nested false c (← redirections fuel)
      else if ← atWord "while" then
        advance
        loop fuel true
      else if ← atWord "until" then
        advance
        loop fuel false
      else if ← atWord "for" then
        advance
        each fuel
      else if !(← atCommand) then refuse none
      else simple (← line) fuel [] [] []

/-- Reads the rest of a loop. -/
def loop : Nat → Bool → Reading Command
  | 0, _ => refuse none
  | fuel + 1, onSuccess => do
      let test ← list "do" fuel
      expectWord "do"
      let body ← list "done" fuel
      expectWord "done"
      return .nested false (.loop onSuccess test body) (← redirections fuel)

/-- Reads the rest of a loop over words. -/
def each : Nat → Reading Command
  | 0 => refuse none
  | fuel + 1 => do
      match (bareWord? (← next?)).filter isName with
      | none => throw .badLoopName
      | some name =>
          advance
          skipLines
          let words ← if ← atWord "in" then do
              advance
              let words ← wordsUntilEnd fuel
              if !(← atOperator ";") ∧ (← next?) ≠ some .newline then refuse none
              pure words
            else pure []
          if ← atOperator ";" then advance
          skipLines
          expectWord "do"
          let body ← list "done" fuel
          expectWord "done"
          return .nested false (.each name words body) (← redirections fuel)

/-- Reads the rest of a choice. -/
def branches : Nat → Reading Command
  | 0 => refuse none
  | fuel + 1 => do
      let test ← list "then" fuel
      expectWord "then"
      let yes ← list "fi" fuel
      if ← atWord "elif" then
        advance
        return .choice test yes (← branches fuel)
      else if ← atWord "else" then
        advance
        let no ← list "fi" fuel
        expectWord "fi"
        return .choice test yes no
      else
        expectWord "fi"
        return .choice test yes .nothing

/-- Reads a pipeline, which may be negated. -/
def pipeline : Nat → Reading Command
  | 0 => refuse none
  | fuel + 1 => do
      if ← atWord "!" then
        advance
        if ← atWord "!" then refuse none
        return .negated (← pipeline fuel)
      else
        let first ← command fuel
        if ← atOperator "|" then
          advance
          skipLines
          return .piped first (← pipeline fuel)
        else return first

/-- Reads commands joined by `&&` and `||`, of which the first is read already. -/
def joined : Nat → Command → Reading Command
  | 0, c => return c
  | fuel + 1, c => do
      if ← atOperator "&&" then
        advance
        skipLines
        joined fuel (.conditional true c (← pipeline fuel))
      else if ← atOperator "||" then
        advance
        skipLines
        joined fuel (.conditional false c (← pipeline fuel))
      else return c

/-- Reads a list within a compound command, up to the word or operator that closes it. -/
def list (closer : String) : Nat → Reading Command
  | 0 => refuse none
  | fuel + 1 => do
      skipLines
      if (← next?).isNone then refuse (some closer)
      let (c, _) ← terminated (← joined fuel (← pipeline fuel))
      skipLines
      if ← atCommand then return .sequence c (← list closer fuel) else return c

end

/-- Reads the commands of a line up to its end. -/
def commandsOfLine : Nat → Reading Command
  | 0 => refuse none
  | fuel + 1 => do
      let (c, ended) ← terminated (← joined fuel (← pipeline fuel))
      match ← next? with
      | none => return c
      | some .newline => return c
      | some _ => if ended then return .sequence c (← commandsOfLine fuel) else refuse none

end Reading

/-- The depth of reading that so many tokens suffice for. -/
def readingDepth (tokens : List (Nat × Token)) : Nat := 8 * (tokens.length + 1)

/-- Reads the first line of commands, and leaves the tokens after it. -/
def readLine (ts : List (Nat × Token)) : Except Fault (Command × List (Nat × Token)) :=
  match ts with
  | [] => .ok (.nothing, [])
  | (_, .newline) :: ts => .ok (.nothing, ts)
  | ts => Reading.commandsOfLine (readingDepth ts) ts

example : (readLine (tokens "a=1 b || c\nd".toList)).toOption =
    some (.conditional false (.simple 1 [("a", [.char '1' false])] [[.char 'b' false]] [])
      (.simple 1 [] [[.char 'c' false]] []), [(1, .newline), (2, .word [.char 'd' false])]) := by
  decide +kernel

end ChassisAdmin.Shell
