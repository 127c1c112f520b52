import ChassisAdmin.Shell.Quote

/-!
# Words of the shell's language

A shell reads a command as words.  Blanks and operators end a word unless they
are quoted.

* A backslash quotes the next character.
* Between single quotes every character stands for itself.
* Between double quotes a dollar sign and a backquote keep their meaning.  A
  backslash there quotes only the characters that have one, and stands for
  itself in front of any other.
* A backslash in front of a line feed vanishes with it, but not between single
  quotes.

A dollar sign begins an expansion: the value of a parameter, of an arithmetic
expression or of the output of commands.  Where nothing that makes sense follows,
it stands for itself.  A word is read into its parts, and what stands in an
expansion is kept as it is, to be read when the word is expanded.

Readers say how many characters they take, so that the rest of the text can be
read by dropping as many.
-/

namespace ChassisAdmin.Shell

/-- A part of a word. -/
inductive Part where
  /-- A character that stands for itself. -/
  | char (c : Char) (quoted : Bool)
  /-- Opening quotes, which make a word of nothing. -/
  | quotes
  /-- The value of a parameter. -/
  | value (name : String) (quoted : Bool)
  /-- The value of an arithmetic expression. -/
  | arithmetic (expression : List Char) (quoted : Bool)
  /-- The output of commands. -/
  | output (script : List Char) (quoted : Bool)
  deriving DecidableEq, Repr

/-- A word. -/
abbrev Word := List Part

/-- Why a text is no script. -/
inductive Fault where
  /-- Quotes are not closed. -/
  | unterminated
  /-- A brace is not closed. -/
  | missingBrace
  /-- A loop over words lacks the name they go by. -/
  | badLoopName
  /-- A token stands where it has no meaning, or where another is needed. -/
  | unexpected (token : String) (expected : Option String)
  deriving DecidableEq, Repr

/-- The wording of a fault. -/
def Fault.message : Fault → String
  | unterminated => "Syntax error: Unterminated quoted string"
  | missingBrace => "Syntax error: Missing '\x7d'"
  | badLoopName => "Syntax error: Bad for loop variable"
  | unexpected token none => "Syntax error: " ++ token ++ " unexpected"
  | unexpected token (some e) =>
      "Syntax error: " ++ token ++ " unexpected (expecting \"" ++ e ++ "\")"

/-- The name of the end of a script. -/
def endOfFile : String := "end of file"

/-! ## Characters -/

/-- Whether a character can begin a name. -/
def isNameStart (c : Char) : Bool := c.isAlpha || c = '_'

/-- Whether a character can be in a name. -/
def isNameChar (c : Char) : Bool := c.isAlphanum || c = '_'

/-- Whether a character names a parameter of the shell's own. -/
def isSpecialName (c : Char) : Bool := "?$#@*!-".toList.contains c || c.isDigit

/-- Whether an unquoted character ends a word. -/
def endsWord (c : Char) : Bool := " \t\n;&|()<>".toList.contains c

/-! ## Expansions -/

/-- How characters are quoted at some place. -/
inductive Quoting where
  /-- Not at all. -/
  | bare
  /-- Between single quotes. -/
  | single
  /-- Between double quotes. -/
  | double
  deriving DecidableEq, Repr

/-- The quoting after a character, where it is not between single quotes and no backslash. -/
def Quoting.after (q : Quoting) (c : Char) : Quoting :=
  if c = '"' then (if q = .double then .bare else .double)
  else if c = '\'' ∧ q = .bare then .single
  else q

/-- The number of characters up to the parenthesis that closes one before the text, in which so
many others are open. -/
def toClosing : Nat → Quoting → List Char → Option Nat
  | _, _, [] => none
  | d, .single, c :: cs =>
      (toClosing d (if c = '\'' then .bare else .single) cs).map (· + 1)
  | d, q, ['\\'] => (toClosing d q []).map (· + 1)
  | d, q, '\\' :: _ :: cs => (toClosing d q cs).map (· + 2)
  | d, q, c :: cs =>
      if q = .bare ∧ c = ')' then
        match d with
        | 0 => some 0
        | d + 1 => (toClosing d q cs).map (· + 1)
      else if q = .bare ∧ c = '(' then (toClosing (d + 1) q cs).map (· + 1)
      else (toClosing d (q.after c) cs).map (· + 1)

/-- The number of characters up to a backquote that no backslash is in front of. -/
def toBackquote : List Char → Option Nat
  | [] => none
  | '\\' :: _ :: cs => (toBackquote cs).map (· + 2)
  | c :: cs => if c = backquote then some 0 else (toBackquote cs).map (· + 1)

/-- What stands between backquotes, where a backslash keeps a backslash, a backquote and a dollar
sign from their meaning. -/
def insideBackquotes : List Char → List Char
  | [] => []
  | ['\\'] => ['\\']
  | '\\' :: c :: cs =>
      if c = '\\' ∨ c = backquote ∨ c = '$' then c :: insideBackquotes cs
      else '\\' :: c :: insideBackquotes cs
  | c :: cs => c :: insideBackquotes cs

/-- An expansion after its dollar sign, with the number of characters it takes. -/
def readExpansion (quoted : Bool) : List Char → Except Fault (Option (Part × Nat))
  | '(' :: '(' :: cs =>
      match toClosing 1 .bare cs with
      | some n =>
          if (cs.take n).getLast? = some ')' then
            .ok (some (.arithmetic (cs.take n).dropLast quoted, n + 3))
          else .ok (some (.output ('(' :: cs.take n) quoted, n + 3))
      | none => .error (.unexpected endOfFile (some ")"))
  | '(' :: cs =>
      match toClosing 0 .bare cs with
      | some n => .ok (some (.output (cs.take n) quoted, n + 2))
      | none => .error (.unexpected endOfFile (some ")"))
  | '\x7b' :: cs =>
      let name := cs.takeWhile fun c => isNameChar c || isSpecialName c
      if (cs.drop name.length).head? = some '\x7d' then
        .ok (some (.value (String.ofList name) quoted, name.length + 2))
      else .error .missingBrace
  | c :: cs =>
      if isNameStart c then
        let name := c :: cs.takeWhile isNameChar
        .ok (some (.value (String.ofList name) quoted, name.length))
      else if isSpecialName c then .ok (some (.value (String.singleton c) quoted, 1))
      else .ok none
  | [] => .ok none

/-! ## Words -/

/-- Parts in front of those read next, and the characters they took. -/
def withParts (parts : List Part) (taken : Nat) (rest : Except Fault (Word × Nat)) :
    Except Fault (Word × Nat) :=
  rest.map fun r => (parts ++ r.1, taken + r.2)

/-- The parts of a backslash and the character after it. -/
def escapedParts (q : Quoting) (c : Char) : List Part :=
  if c = '\n' then []
  else if q = .double ∧ !needsBackslash c then [.char '\\' true, .char c true]
  else [.char c true]

/-- Reads parts of a word, in a text of which so many characters have been read already. -/
def readParts : Quoting → Nat → List Char → Except Fault (Word × Nat)
  | .bare, _, [] => .ok ([], 0)
  | _, _, [] => .error .unterminated
  | q, skip + 1, _ :: cs => withParts [] 1 (readParts q skip cs)
  | .single, 0, c :: cs =>
      if c = '\'' then withParts [] 1 (readParts .bare 0 cs)
      else withParts [.char c true] 1 (readParts .single 0 cs)
  | q, 0, c :: cs =>
      if c = '\\' then
        match cs.head? with
        | some d => withParts (escapedParts q d) 1 (readParts q 1 cs)
        | none => withParts [.char '\\' true] 1 (readParts q 0 cs)
      else if c = '$' then
        match readExpansion (q = .double) cs with
        | .error f => .error f
        | .ok (some (part, n)) => withParts [part] 1 (readParts q n cs)
        | .ok none => withParts [.char '$' (q = .double)] 1 (readParts q 0 cs)
      else if c = backquote then
        match toBackquote cs with
        | some n =>
            withParts [.output (insideBackquotes (cs.take n)) (q = .double)] 1
              (readParts q (n + 1) cs)
        | none => .error .unterminated
      else if q = .double then
        if c = '"' then withParts [] 1 (readParts .bare 0 cs)
        else withParts [.char c true] 1 (readParts q 0 cs)
      else if c = '"' then withParts [.quotes] 1 (readParts .double 0 cs)
      else if c = '\'' then withParts [.quotes] 1 (readParts .single 0 cs)
      else if endsWord c then .ok ([], 0)
      else withParts [.char c false] 1 (readParts q 0 cs)

/-- Reads the word at the front of a text, and says how many characters it takes. -/
def readWord (cs : List Char) : Except Fault (Word × Nat) := readParts .bare 0 cs

/-- The text of a word without expansions. -/
def plainText : Word → Option (List Char)
  | [] => some []
  | .char c _ :: ps => (plainText ps).map (c :: ·)
  | .quotes :: ps => plainText ps
  | _ :: _ => none

/-- The text of a word without expansions and without quotes. -/
def bareText : Word → Option (List Char)
  | [] => some []
  | .char c false :: ps => (bareText ps).map (c :: ·)
  | _ :: _ => none

example : (readWord (quoteChars "a$\\".toList ++ [';'])).toOption =
    some ([.quotes, .char 'a' true, .char '$' true, .char '\\' true], 7) := by decide

example : (readWord "x$(a \")\")y z".toList).toOption.map (·.2) = some 10 := by decide

end ChassisAdmin.Shell
