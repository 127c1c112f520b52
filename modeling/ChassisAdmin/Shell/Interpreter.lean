import ChassisAdmin.Shell.Builtin
import ChassisAdmin.Shell.Result
import ChassisAdmin.Shell.Script

/-!
# Running scripts

A shell runs a script line by line.  It keeps the values of parameters and the
status of the last command, and every stream of a command goes to one of the
places that are open: the two outputs of the script, the bytes that a pipe or an
expansion collects, or nowhere.

A list in parentheses, a part of a pipeline and the commands of an expansion run
in a copy of the shell, from which only what was written and the status come
back.  A signal ends the shell and all its copies.  A loop need not end, so a
script is given up after a number of steps, as if it were killed.

A tilde alone or in front of a slash, at the beginning of a word, stands for the
home directory.  The programs that are not part of the shell are `cat` without operands and
`sleep`, which passes at once.  No other program is installed.  There are no
files but the null device.
-/

namespace ChassisAdmin.Shell

/-- Why a shell stops within a script. -/
inductive Stop where
  /-- It ends with the status it has. -/
  | ended
  /-- It leaves a loop. -/
  | leftLoop
  /-- It goes on with the next round of a loop. -/
  | nextRound
  /-- A signal ends it. -/
  | killed
  deriving DecidableEq, Repr

/-- Where the outputs of a command go: to one of the places that are open, or nowhere. -/
structure Streams where
  /-- The place of the standard output. -/
  output : Option Nat
  /-- The place of the standard error output. -/
  errors : Option Nat
  deriving DecidableEq, Repr

/-- What a shell keeps. -/
structure State where
  /-- The values of parameters. -/
  values : List (String × String)
  /-- The status of the last command. -/
  status : Nat
  /-- The bytes of the standard input. -/
  input : List UInt8
  /-- The bytes written to each place that is open. -/
  written : List (List UInt8)
  deriving DecidableEq, Repr

/-- A part of the run of a script. -/
abbrev Run (α : Type) : Type := ExceptT Stop (StateM State) α

namespace Interpreter

/-- The number of the shell's own process. -/
def ownProcess : Nat := 4242

/-- The name under which the shell was started. -/
def ownName : String := "/bin/sh"

/-- The value of a parameter. -/
def valueOf (s : State) (name : String) : String :=
  match name with
  | "$" => Text.decimal ownProcess
  | "?" => Text.decimal s.status
  | "#" => "0"
  | "0" => ownName
  | _ => ((s.values.find? (·.1 == name)).map (·.2)).getD ""

/-- Sets the value of a parameter. -/
def assign (name value : String) : Run Unit :=
  modify fun s => { s with values := (name, value) :: s.values.filter (·.1 != name) }

/-- Sets the status. -/
def setStatus (n : Nat) : Run Unit := modify fun s => { s with status := n }

/-- Writes bytes to a place. -/
def write (place : Option Nat) (b : List UInt8) : Run Unit :=
  match place with
  | none => return ()
  | some i => modify fun s => { s with written := s.written.modify i (· ++ b) }

/-- Writes what the shell has to complain about. -/
def complain (io : Streams) (line : Nat) (text : String) : Run Unit :=
  write io.errors
    (Builtin.bytes (ownName ++ ": " ++ Text.decimal line ++ ": " ++ text ++ "\n").toList)

/-- Ends the shell with a complaint. -/
def abandon {α : Type} (io : Streams) (line : Nat) (text : String) : Run α := do
  complain io line text
  setStatus 2
  throw .ended

/-- Runs a part in a copy of the shell. -/
def inCopy (body : Run Unit) : Run Unit := do
  let before ← get
  let restore : Run Unit := modify fun s => { s with values := before.values }
  try
    body
    restore
  catch stop =>
    restore
    if stop = .killed then throw stop

/-- Runs a part with a new place for its output, and gives what was written there. -/
def collect (io : Streams) (body : Streams → Run Unit) : Run (List UInt8) := do
  let place := (← get).written.length
  modify fun s => { s with written := s.written ++ [[]] }
  body { io with output := some place }
  let collected := ((← get).written[place]?).getD []
  modify fun s => { s with written := s.written.take place }
  return collected

/-! ## Fields -/

/-- Fields that are being put together, last first. -/
structure Fields where
  /-- The fields that are complete. -/
  complete : List (List Char)
  /-- The field under way, its characters last first. -/
  current : Option (List Char)

namespace Fields

/-- Adds characters to the field under way. -/
def add (f : Fields) (cs : List Char) : Fields :=
  { f with current := some (cs.reverse ++ f.current.getD []) }

/-- Completes the field under way. -/
def finish (f : Fields) : Fields :=
  match f.current with
  | some cs => ⟨cs.reverse :: f.complete, none⟩
  | none => f

/-- Adds the result of an expansion, in which blanks divide fields unless it is quoted. -/
def addResult (f : Fields) (quoted : Bool) (cs : List Char) : Fields :=
  if quoted then f.add cs
  else cs.foldl (fun f c => if c = ' ' ∨ c = '\t' ∨ c = '\n' then f.finish else f.add [c]) f

/-- All fields. -/
def toList (f : Fields) : List String := f.finish.complete.reverse.map String.ofList

end Fields

/-- A word with the home directory in place of a tilde at its beginning. -/
def expandHome (home : List Char) : Word → Word
  | [.char '~' false] => home.map (.char · true)
  | .char '~' false :: .char '/' false :: w => home.map (.char · true) ++ .char '/' false :: w
  | w => w

/-- A text without the line feeds at its end. -/
def withoutLastLines (cs : List Char) : List Char :=
  (cs.reverse.dropWhile (· = '\n')).reverse

/-! ## Commands that change the shell -/

/-- The names of signals, from the first on. -/
def signals : List String :=
  ["HUP", "INT", "QUIT", "ILL", "TRAP", "ABRT", "BUS", "FPE", "KILL", "USR1", "SEGV", "USR2",
    "PIPE", "ALRM", "TERM", "STKFLT", "CHLD", "CONT", "STOP", "TSTP", "TTIN", "TTOU", "URG",
    "XCPU", "XFSZ", "VTALRM", "PROF", "WINCH", "POLL", "PWR", "SYS"]

/-- The signals that do not end a process. -/
def harmless : List Nat := [0, 17, 18, 19, 20, 21, 22, 23, 28]

/-- The number of a signal, by its name or in digits. -/
def signal? (name : String) : Option Nat :=
  match Text.natOfDigits name.toList with
  | some n => some n
  | none => (signals.idxOf? name).map (· + 1)

/-- The signal and the processes that operands name, or the option that is none. -/
def killOperands : List String → Except String (Nat × List String)
  | "-s" :: name :: rest =>
      match signal? name with
      | some n => .ok (n, rest)
      | none => .error ("kill: invalid signal number or name: " ++ name)
  | arg :: rest =>
      match arg.toList with
      | '-' :: cs =>
          match signal? (String.ofList cs) with
          | some n => .ok (n, rest)
          | none => .error ("kill: Illegal option -" ++ String.ofList (cs.take 1))
      | _ => .ok (15, arg :: rest)
  | [] => .ok (15, [])

/-- Sends a signal to processes. -/
def kill (io : Streams) (line : Nat) (args : List String) : Run Unit := do
  match killOperands args with
  | .error e => do
      complain io line e
      setStatus 2
  | .ok (n, targets) =>
      if targets.contains (Text.decimal ownProcess) then
        if harmless.contains n then setStatus 0 else throw .killed
      else
        complain io line "kill: No such process"
        setStatus 1

/-- The greatest status that can be given. -/
def maxStatus : Nat := 2147483647

/-- Ends the shell with a status, of which eight bits count. -/
def exit (io : Streams) (line : Nat) (args : List String) : Run Unit :=
  match args with
  | [] => throw .ended
  | arg :: _ =>
      match (Text.natOfDigits arg.toList).filter (· ≤ maxStatus) with
      | some n => do
          setStatus (n % 256)
          throw .ended
      | none => abandon io line ("exit: Illegal number: " ++ arg)

/-- The directories of programs. -/
def programDirs : List String := ["/usr/bin/", "/bin/"]

/-- The name of a program without its directory. -/
def programName (name : String) : String :=
  match programDirs.find? fun d => name.startsWith d with
  | some d => String.ofList (name.toList.drop d.length)
  | none => name

/-- Runs a command by its name and operands. -/
def perform (io : Streams) (line : Nat) (name : String) (args : List String) : Run Unit :=
  match name with
  | "exit" | "return" => exit io line args
  | "" => do
      complain io line ": Permission denied"
      setStatus 127
  | "kill" => kill io line args
  | "break" => throw .leftLoop
  | "continue" => throw .nextRound
  | _ =>
      match Builtin.effect? (programName name) args with
      | some e => do
          write io.output e.output
          if let some text := e.complaint then
            complain io line text
          setStatus e.status
      | none => do
          if programName name = "cat" ∧ args.isEmpty then
            write io.output (← get).input
            modify fun s => { s with input := [], status := 0 }
          else
            complain io line (name ++ ": not found")
            setStatus 127

/-! ## Running -/

/-- The streams after a redirection to a target, and whether the input becomes empty. -/
def redirected (io : Streams) (stream : Nat) (kind target : String) : Streams × Bool :=
  let place := if kind = ">&" then
      match target with
      | "1" => io.output
      | "2" => io.errors
      | _ => none
    else
      match target with
      | "/dev/stdout" => io.output
      | "/dev/stderr" => io.errors
      | _ => none
  match stream with
  | 0 => (io, true)
  | 1 => ({ io with output := place }, false)
  | 2 => ({ io with errors := place }, false)
  | _ => (io, false)

/-- The number of steps after which a script is given up. -/
def maxSteps : Nat := 100000

mutual

/-- Expands a part of a word. -/
def expandPart (line : Nat) : Nat → Streams → Fields → Part → Run Fields
  | 0, _, _, _ => throw .killed
  | fuel + 1, io, f, part => do
      match part with
      | .char c _ => return f.add [c]
      | .quotes => return f.add []
      | .value name quoted =>
          if name = "@" ∨ name = "*" then return f
          else return f.addResult quoted (valueOf (← get) name).toList
      | .arithmetic expression quoted =>
          let s ← get
          match Arithmetic.evaluate (fun n => (valueOf s n).toList) expression with
          | .ok n => return f.addResult quoted (Text.signedDecimal n).toList
          | .error e => abandon io line e
      | .output script quoted =>
          let b ← collect io fun io => inCopy (runLines fuel io (tokens script))
          return f.addResult quoted (withoutLastLines (Text.Utf8.decodeLossy b).toList)
termination_by structural fuel => fuel

/-- Expands a word to fields. -/
def expandWord (line : Nat) : Nat → Streams → Word → Run (List String)
  | 0, _, _ => throw .killed
  | fuel + 1, io, w => do
      let w := expandHome ((valueOf (← get) "HOME").toList) w
      return (← w.foldlM (expandPart line fuel io) ⟨[], none⟩).toList
termination_by structural fuel => fuel

/-- Expands a word to one text. -/
def expandText (line : Nat) : Nat → Streams → Word → Run String
  | 0, _, _ => throw .killed
  | fuel + 1, io, w => return " ".intercalate (← expandWord line fuel io w)
termination_by structural fuel => fuel

/-- Expands words to fields. -/
def expandWords (line : Nat) : Nat → Streams → List Word → Run (List String)
  | 0, _, _ => throw .killed
  | fuel + 1, io, ws => return (← ws.mapM (expandWord line fuel io)).flatten
termination_by structural fuel => fuel

/-- Applies redirections. -/
def redirect (line : Nat) : Nat → Streams → List Redirection → Run Streams
  | 0, _, _ => throw .killed
  | fuel + 1, io, rs =>
      rs.foldlM (fun io r => do
        let target ← expandText line fuel io r.target
        let (io, emptied) := redirected io r.stream r.kind target
        if emptied then
          modify fun s => { s with input := [] }
        return io) io
termination_by structural fuel => fuel

/-- Runs a command. -/
def runCommand : Nat → Streams → Command → Run Unit
  | 0, _, _ => throw .killed
  | fuel + 1, io, c => do
      match c with
      | .nothing => setStatus 0
      | .simple line assignments words redirections =>
          let args ← expandWords line fuel io words
          let io ← redirect line fuel io redirections
          if args.isEmpty then
            setStatus 0
          for a in assignments do
            assign a.1 (← expandText line fuel io a.2)
          match args with
          | "eval" :: args => runLines fuel io (tokens (" ".intercalate args).toList)
          | ["exec"] => setStatus 0
          | "exec" :: name :: args => do
              perform io line name args
              throw .ended
          | name :: args => perform io line name args
          | [] => return ()
      | .nested ownShell body redirections =>
          let io ← redirect 1 fuel io redirections
          if ownShell then inCopy (runCommand fuel io body) else runCommand fuel io body
      | .sequence first second =>
          runCommand fuel io first
          runCommand fuel io second
      | .conditional onSuccess first second =>
          runCommand fuel io first
          if ((← get).status = 0) = onSuccess then
            runCommand fuel io second
      | .piped first second =>
          let before := (← get).input
          let b ← collect io fun io => inCopy (runCommand fuel io first)
          modify fun s => { s with input := b }
          inCopy (runCommand fuel io second)
          modify fun s => { s with input := before }
      | .negated body =>
          runCommand fuel io body
          setStatus (if (← get).status = 0 then 1 else 0)
      | .choice test yes no =>
          runCommand fuel io test
          if (← get).status = 0 then runCommand fuel io yes else runCommand fuel io no
      | .loop onSuccess test body => runLoop fuel io onSuccess test body 0
      | .each name words body => runEach fuel io name body (← expandWords 1 fuel io words)
termination_by structural fuel => fuel

/-- Runs a round of a loop, and says whether the loop goes on. -/
def runRound : Nat → Streams → Command → Run Bool
  | 0, _, _ => throw .killed
  | fuel + 1, io, body => do
      try
        runCommand fuel io body
        return true
      catch stop =>
        match stop with
        | .leftLoop =>
            setStatus 0
            return false
        | .nextRound =>
            setStatus 0
            return true
        | _ => throw stop
termination_by structural fuel => fuel

/-- Runs a loop, where the last round ended with a status. -/
def runLoop : Nat → Streams → Bool → Command → Command → Nat → Run Unit
  | 0, _, _, _, _, _ => throw .killed
  | fuel + 1, io, onSuccess, test, body, last => do
      runCommand fuel io test
      if ((← get).status = 0) = onSuccess then
        if ← runRound fuel io body then
          runLoop fuel io onSuccess test body (← get).status
      else
        setStatus last
termination_by structural fuel => fuel

/-- Runs a loop over words. -/
def runEach : Nat → Streams → String → Command → List String → Run Unit
  | 0, _, _, _, _ => throw .killed
  | _, _, _, _, [] => return ()
  | fuel + 1, io, name, body, value :: values => do
      assign name value
      if ← runRound fuel io body then
        runEach fuel io name body values
termination_by structural fuel => fuel

/-- Runs the lines of a script. -/
def runLines : Nat → Streams → List (Nat × Token) → Run Unit
  | 0, _, _ => throw .killed
  | fuel + 1, io, ts => do
      match readLine ts with
      | .error f => abandon io ((ts.head?.map (·.1)).getD 1) f.message
      | .ok (c, rest) =>
          runCommand fuel io c
          if !rest.isEmpty then
            runLines fuel io rest
termination_by structural fuel => fuel

end

end Interpreter

/-- What a script leaves behind that finds some values in its environment. -/
def transcript (environment : List (String × String)) (script : String) : Transcript :=
  let (r, s) := (Interpreter.runLines Interpreter.maxSteps ⟨some 0, some 1⟩
    (tokens script.toList)).run.run ⟨environment, 0, [], [[], []]⟩
  { status := match r with
      | .error .killed => none
      | _ => some s.status
    output := (s.written[0]?).getD []
    errors := (s.written[1]?).getD [] }

/-- Runs a command with some values in its environment. -/
def execute (environment : List (String × String)) (command : String) :
    Except SystemError Result :=
  (startable command).map fun () => .ofTranscript (transcript environment command)

example : transcript [] "i=1; while [ $i -lt 4 ]; do i=$((i*3)); done; exit $i" =
    ⟨some 9, [], []⟩ := by decide +kernel

example : transcript [] "(echo a; kill -9 $$) | cat" = ⟨none, [], []⟩ := by decide +kernel

end ChassisAdmin.Shell
