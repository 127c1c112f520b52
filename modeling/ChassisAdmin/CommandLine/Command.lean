import ChassisAdmin.Credentials

/-!
# Commands of the command line

The commands an operator can give, and how each is spelled: some words that lead
to it and then its operands.
-/

namespace ChassisAdmin.CommandLine

/-- A command. -/
inductive Command where
  /-- Shuts a module down. -/
  | shutdown (module : String)
  /-- Starts a module up. -/
  | startup (module : String)
  /-- Installs the local key on DPUs. -/
  | enableLogin (dpus : String)
  /-- Removes the keys from DPUs. -/
  | disableLogin (dpus : String)
  /-- Adds a pair to the credentials file. -/
  | addCredential (pair : Credential)
  /-- Puts a pair in place of the credentials file. -/
  | replaceCredentials (pair : Credential)
  /-- Removes the credentials file. -/
  | removeCredentials
  /-- Shows the states of modules. -/
  | showStatus (module : Option String)
  /-- Shows whether DPUs let this machine in without a password. -/
  | showLogin (dpus : String)
  deriving DecidableEq, Repr

namespace Command

/-- The words that lead to a command. -/
def words : Command → List String
  | shutdown _ => ["config", "shutdown"]
  | startup _ => ["config", "startup"]
  | enableLogin _ => ["config", "dpu-ssh", "enable"]
  | disableLogin _ => ["config", "dpu-ssh", "disable"]
  | addCredential _ => ["config", "dpu-credentials", "add"]
  | replaceCredentials _ => ["config", "dpu-credentials", "replace"]
  | removeCredentials => ["config", "dpu-credentials", "remove"]
  | showStatus _ => ["show", "status"]
  | showLogin _ => ["show", "dpu-ssh"]

/-- The operands of a command.  One that was left out is `none`. -/
def operands : Command → List (Option String)
  | shutdown m | startup m | enableLogin m | disableLogin m | showLogin m => [some m]
  | addCredential c | replaceCredentials c => [some c.username, some c.password]
  | removeCredentials => []
  | showStatus m => [m]

end Command

end ChassisAdmin.CommandLine
