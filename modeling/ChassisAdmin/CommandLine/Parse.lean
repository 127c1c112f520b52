import ChassisAdmin.CommandLine.Grammar
import ChassisAdmin.Config

/-!
# Reading the command line

The arguments are read from left to right.  Words lead down the tree, and the
operands of the command follow.  Options may stand anywhere.

* `--config PATH` or `--config=PATH` names the configuration file.  The path is
  not empty, and as an argument of its own it does not begin with a dash.
* `-v` or `--verbose` asks for more messages.  `-h` or `--help` asks for help,
  and `-V` or `--version` for the version, in front of the first word only.
  Single letters may be written together.
* `--` ends options and words, and only operands follow.
* The word `help` asks for help on the words after it.

The two options that say something count wherever they stand.  Between two words
each may be given once, and the path given last counts.  The path after
`--config` is checked when something other than a word follows it, so a mistake
after a later word is found first.
-/

namespace ChassisAdmin.CommandLine

/-- Why the arguments are no command. -/
inductive Refusal where
  /-- Help is asked for. -/
  | help
  /-- The version is asked for. -/
  | version
  /-- Nothing follows a word that needs another. -/
  | nothingGiven
  /-- Only options follow a word that needs another. -/
  | missingWord
  /-- A word has no meaning where it stands. -/
  | unknownWord
  /-- An option does not exist, or an operand is one too many. -/
  | unknownArgument
  /-- An operand is missing. -/
  | missingOperand
  /-- An option lacks its value. -/
  | missingValue
  /-- An option takes no value but has one. -/
  | unneededValue
  /-- An option is repeated. -/
  | repeated
  deriving DecidableEq, Repr

/-- The exit status of a refusal. -/
def Refusal.exitStatus : Refusal → Nat
  | help | version => 0
  | _ => 2

/-- What the arguments say. -/
structure Invocation where
  /-- The path of the configuration file, if it is given. -/
  configPath : Option String
  /-- Whether more messages are asked for. -/
  verbose : Bool
  /-- The command. -/
  command : Command
  deriving DecidableEq, Repr

/-- The path of the configuration file. -/
def Invocation.config (i : Invocation) : String := i.configPath.getD Config.usualPath

/-! ## The options between two words -/

/-- What has been read since the last word. -/
structure Level where
  /-- The path given for the configuration file. -/
  configPath : Option String
  /-- Whether more messages are asked for. -/
  verbose : Bool
  /-- A `--config` that is still to be checked, with its path if that has been read. -/
  pending : Option (Option String)
  /-- The operands, last first. -/
  operands : List String

namespace Level

/-- Nothing read yet. -/
def start : Level := ⟨none, false, none, []⟩

/-- Takes the path of a configuration file. -/
def withPath (l : Level) (path : String) : Except Refusal Level :=
  if l.configPath.isSome then .error .repeated
  else if path = "" then .error .missingValue
  else .ok { l with configPath := some path, pending := none }

/-- Checks a `--config` that is still to be checked. -/
def settled (l : Level) : Except Refusal Level :=
  match l.pending with
  | none => .ok l
  | some none => .error .missingValue
  | some (some path) => l.withPath path

/-- Asks for more messages. -/
def withVerbose (l : Level) : Except Refusal Level := do
  let l ← l.settled
  if l.verbose then throw .repeated else return { l with verbose := true }

/-- Stops with a refusal, unless something before it is wrong. -/
def refuse (l : Level) (r : Refusal) : Except Refusal Level := do
  let _ ← l.settled
  throw r

/-- Takes single letters written together. -/
def withLetters (isRoot : Bool) : List Char → Level → Except Refusal Level
  | [], l => .ok l
  | 'v' :: cs, l => do withLetters isRoot cs (← l.withVerbose)
  | 'h' :: _, l => l.refuse .help
  | c :: _, l => if c = 'V' ∧ isRoot then l.refuse .version else .error .unknownArgument

/-- Takes an option with a name, and possibly a value after an equals sign. -/
def withOption (isRoot : Bool) (name : String) (value : Option String) (l : Level) :
    Except Refusal Level :=
  let flag (act : Except Refusal Level) : Except Refusal Level :=
    if value.isSome then .error .unneededValue else act
  if name = "config" then
    match value with
    | some path => do (← l.settled).withPath path
    | none => do return { ← l.settled with pending := some none }
  else if name = "verbose" then flag l.withVerbose
  else if name = "help" then flag (l.refuse .help)
  else if name = "version" ∧ isRoot then flag (l.refuse .version)
  else .error .unknownArgument

/-- Takes an operand. -/
def withOperand (node : Node) (l : Level) (operand : String) : Except Refusal Level :=
  match node with
  | .group .. => .error .unknownWord
  | .leaf _ o =>
      if l.operands.length < o.most then do
        let l ← l.settled
        return { l with operands := operand :: l.operands }
      else .error .unknownArgument

/-- Whether an option on the level was given. -/
def hasOption (l : Level) : Bool := l.configPath.isSome || l.verbose

end Level

/-! ## Arguments -/

/-- What an argument looks like. -/
inductive Shape where
  /-- It ends the options. -/
  | terminator
  /-- It names an option, possibly with a value. -/
  | long (name : String) (value : Option String)
  /-- It is one or more single letters. -/
  | letters (cs : List Char)
  /-- It is a word or an operand. -/
  | plain
  deriving DecidableEq, Repr

/-- The shape of an argument. -/
def shapeOf (arg : String) : Shape :=
  match arg.toList with
  | ['-', '-'] => .terminator
  | '-' :: '-' :: cs =>
      match Text.splitOnce '=' cs with
      | some (name, value) => .long (String.ofList name) (some (String.ofList value))
      | none => .long (String.ofList cs) none
  | ['-'] => .plain
  | '-' :: cs => .letters cs
  | _ => .plain

/-- The word that asks for help. -/
def helpWord : String := "help"

/-- The refusal of a request for help on some words. -/
def helpOn : Node → List String → Refusal
  | _, [] => .help
  | node, w :: ws =>
      match node.member? w with
      | some n => helpOn n ws
      | none =>
          match node with
          | .group .. => if w = helpWord ∧ ws = [] then .help else .unknownWord
          | .leaf .. => .unknownWord

/-- The command of a node where the arguments end. -/
def finish (node : Node) (l : Level) : Except Refusal Invocation := do
  let l ← l.settled
  match node with
  | .group .. => throw (if l.hasOption then .missingWord else .nothingGiven)
  | .leaf _ o =>
      match o.command? l.operands.reverse with
      | some command => return ⟨l.configPath, l.verbose, command⟩
      | none => throw .missingOperand

/-- Reads arguments after the terminator, which are all operands. -/
def readOperands (node : Node) (l : Level) : List String → Except Refusal Invocation
  | [] => finish node l
  | a :: as =>
      if (node.member? a).isSome ∨ (a = helpWord ∧ node matches .group ..) then
        .error .unknownArgument
      else do
        readOperands node (← l.withOperand node a) as

/-- Reads arguments after a word, where `awaiting` says that the last was a `--config`. -/
def read (isRoot : Bool) (node : Node) (l : Level) (awaiting : Bool) :
    List String → Except Refusal Invocation
  | [] => finish node l
  | a :: as =>
      let descend (n : Node) : Except Refusal Invocation := do
        let below ← read false n .start false as
        let l ← l.settled
        return { below with
          configPath := below.configPath <|> l.configPath
          verbose := below.verbose || l.verbose }
      match shapeOf a with
      | .terminator => readOperands node l as
      | .long name value => do
          let l ← l.withOption isRoot name value
          read isRoot node l (name = "config" ∧ value = none) as
      | .letters cs => do
          let l ← l.withLetters isRoot cs
          read isRoot node l false as
      | .plain =>
          if awaiting then read isRoot node { l with pending := some (some a) } false as
          else
            match node.member? a with
            | some n => descend n
            | none =>
                if a = helpWord ∧ node matches .group .. then .error (helpOn node as)
                else do
                  read isRoot node (← l.withOperand node a) false as

/-- Reads the arguments of the program. -/
def parse (args : List String) : Except Refusal Invocation := read true root .start false args

example : (parse ["-v", "show", "status", "--config=a"]).toOption =
    some ⟨some "a", true, .showStatus none⟩ := by decide +kernel

example : (parse ["config", "shutdown", "--", "-v"]).toOption =
    some ⟨none, false, .shutdown "-v"⟩ := by decide +kernel

example : (parse ["config", "shutdown", "-v"]).toOption = none := by decide +kernel

end ChassisAdmin.CommandLine
