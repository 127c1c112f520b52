import ChassisAdmin.SystemError
import ChassisAdmin.Text.Blank
import ChassisAdmin.Text.Utf8

/-!
# Results of commands

A command that ran has an exit code and two outputs.  Outputs are read
leniently as UTF-8 and trimmed.  A command that a signal ended has the code -1.
-/

namespace ChassisAdmin.Shell

/-- What a command that ran left behind, as the system tells it. -/
structure Transcript where
  /-- The exit status, if no signal ended the command. -/
  status : Option Nat
  /-- The bytes on the standard output. -/
  output : List UInt8
  /-- The bytes on the standard error output. -/
  errors : List UInt8
  deriving DecidableEq, Repr

/-- Fails for a command that cannot be started, which is one that holds NUL. -/
def startable (command : String) : Except SystemError Unit :=
  if command.toList.contains '\x00' then .error (.notStarted command .nulInCommand) else .ok ()

/-- What a command that ran left behind, as it is reported. -/
structure Result where
  /-- The exit code, 0 for success. -/
  exitCode : Int
  /-- The standard output, trimmed. -/
  stdout : String
  /-- The standard error output, trimmed. -/
  stderr : String
  deriving DecidableEq, Repr

namespace Result

/-- The result of a command from the bytes it wrote. -/
def ofBytes (exitCode : Int) (stdout stderr : List UInt8) : Result :=
  ⟨exitCode, Text.trimmed (Text.Utf8.decodeLossy stdout),
    Text.trimmed (Text.Utf8.decodeLossy stderr)⟩

/-- The exit code of a command that a signal ended. -/
def signalled : Int := -1

/-- The result of a command from what the system tells. -/
def ofTranscript (t : Transcript) : Result :=
  .ofBytes (t.status.elim signalled Int.ofNat) t.output t.errors

/-- Whether the command succeeded. -/
def success (r : Result) : Bool := r.exitCode == 0

/-- Both outputs, for reports. -/
def combinedOutput (r : Result) : String :=
  if r.stderr = "" then r.stdout
  else if r.stdout = "" then r.stderr
  else r.stdout ++ "\n" ++ r.stderr

/-- The standard output of a command that has to succeed. -/
def orFailed (command : String) (r : Result) : Except SystemError String :=
  if r.success then .ok r.stdout else .error (.commandFailed command r.exitCode r.combinedOutput)

end Result

end ChassisAdmin.Shell
