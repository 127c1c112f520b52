import ChassisAdmin.FileError
import ChassisAdmin.Text.Decimal

/-!
# Errors of the store, the shell, the platform and the configuration

Every part of the library that touches the system around it fails with a
`SystemError`.  Two of the causes are passing conditions, which an operator may
cure by giving the command again: a database that did not answer and a shell
command that ended with a failure.
-/

namespace ChassisAdmin

/-- The cause of a failure of the system around the library. -/
inductive SystemError where
  /-- A shell command could not be started. -/
  | notStarted (command : String) (cause : FileError)
  /-- A shell command ended with a non-zero exit code. -/
  | commandFailed (command : String) (exitCode : Int) (output : String)
  /-- A database operation failed. -/
  | database (operation message : String)
  /-- A configuration file, or a field of it, is not valid. -/
  | invalidConfig (field message : String)
  /-- A platform description file is malformed. -/
  | platform (path message : String)
  /-- A file could not be used. -/
  | file (path : String) (cause : FileError)
  /-- The library was put together wrongly. -/
  | internal (message : String)
  deriving DecidableEq, Repr

namespace SystemError

/-- The wording of a failure. -/
def message : SystemError → String
  | notStarted command cause =>
      "Failed to execute shell command '" ++ command ++ "': " ++ cause.message
  | commandFailed command exitCode output =>
      "Shell command failed: '" ++ command ++ "' (exit code " ++ Text.signedDecimal exitCode ++
        "): " ++ output
  | database operation message => "Database operation failed: " ++ operation ++ ": " ++ message
  | invalidConfig field message => "Invalid configuration for " ++ field ++ ": " ++ message
  | platform path message => "Platform file " ++ path ++ ": " ++ message
  | file path cause => "IO error on " ++ path ++ ": " ++ cause.message
  | internal message => "Internal error: " ++ message

/-- The wording of the cause that lies below a failure, where there is one. -/
def cause? : SystemError → Option String
  | notStarted _ cause | file _ cause => some cause.message
  | _ => none

/-- Whether giving the command again may succeed. -/
def isRetryable : SystemError → Bool
  | database .. | commandFailed .. => true
  | _ => false

end SystemError

end ChassisAdmin
