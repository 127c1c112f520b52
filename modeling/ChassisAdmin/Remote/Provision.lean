import ChassisAdmin.Remote.Session
import ChassisAdmin.Shell.Quote
import ChassisAdmin.Store.Call

/-!
# Passwordless login to data processing units

A provisioner installs the public key of this machine on data processing units
(DPUs), takes it away again and reports whether it is there.  It logs in with
the pairs of the credentials file in order.

* Installing stops at the first pair whose command succeeds.
* Removing stops at the first pair whose command writes nothing to the standard
  error output, whatever its exit code.
* The state is what the first pair that logs in reports.  Where none does, login
  without a password counts as disabled.

A DPU is reached at the midplane address that STATE_DB has for it, unless it is
said to be offline there.  An unreachable DPU is no error.  No remote command is
run for it.
-/

namespace ChassisAdmin.Remote

/-! ## The remote commands -/

/-- The file of keys on a remote unit. -/
def keysFile : String := "~/.ssh/authorized_keys"

/-- The command that adds a public key. -/
def installCommand (publicKey : String) : String :=
  "mkdir -p ~/.ssh && chmod 700 ~/.ssh && echo " ++ Shell.quote publicKey ++ " >> " ++ keysFile ++
    " && chmod 600 " ++ keysFile

/-- The command that removes every RSA key. -/
def removeCommand : String := "sed -i '/ssh-rsa/d' " ++ keysFile

/-- What the check prints where there are keys. -/
def keysPresent : String := "exists"

/-- The command that checks whether there are keys. -/
def checkCommand : String :=
  "test -f " ++ keysFile ++ " && echo \"" ++ keysPresent ++ "\" || echo \"not found\""

/-! ## What provisioning asks for -/

/-- A request of a provisioner. -/
inductive Request where
  /-- A call on STATE_DB. -/
  | state (call : Store.Call)
  /-- A call on a local file. -/
  | file (call : Files.Call)
  /-- A local shell command. -/
  | shell (command : String)
  /-- A command on a remote unit. -/
  | execute (target : Target) (credential : Credential) (command : String)
  deriving DecidableEq, Repr

/-- The answer to a request. -/
abbrev Request.Answer : Request → Type
  | state c => Store.Answer c
  | file c => Files.Answer c
  | shell _ => Except SystemError Shell.Result
  | execute .. => Except Error Shell.Result

/-- A part of provisioning. -/
abbrev Step (α : Type) : Type := Attempt Request Request.Answer Error α

/-- Runs a program on STATE_DB. -/
def onState {α : Type} (p : Store.Client α) : Step α :=
  (p.interpret fun c => Program.request (.state c)).mapError .system

/-- Runs a program over local files that cannot fail. -/
def onFiles {α : Type} (p : Program Files.Call Files.Answer α) : Step α :=
  ExceptT.mk ((p.interpret fun c => Program.request (.file c)).bind fun a => .done (.ok a))

/-- Makes a call on a local file. -/
def onFile (c : Files.Call) : Step c.Value :=
  Attempt.request (.file c) fun r => r.mapError (Error.file c.path)

/-- Runs a command on a remote unit and goes on with its outcome. -/
def attempt (target : Target) (credential : Credential) (command : String) :
    Step (Except Error Shell.Result) :=
  Attempt.request (.execute target credential command) .ok

/-! ## The provisioner -/

/-- Provisions keys on remote units. -/
structure Provisioner where
  /-- The credentials file. -/
  passwordFile : String
  /-- The file of the public key. -/
  publicKeyFile : String
  /-- The file of the private key. -/
  privateKeyFile : String
  /-- The time allowed for a connection to come about, in nanoseconds. -/
  connectTimeout : Nat
  /-- The port of the servers. -/
  port : Nat
  deriving DecidableEq, Repr

/-- Whether a remote unit lets this machine in without a password. -/
inductive KeyState where
  /-- It has keys. -/
  | enabled
  /-- It has none, or does not answer. -/
  | disabled
  deriving DecidableEq, Repr

/-- The name of a state. -/
def KeyState.text : KeyState → String
  | enabled => "Enabled"
  | disabled => "Disabled"

/-- What was done to a unit. -/
inductive Provisioned where
  /-- The key was added in the name of a user. -/
  | keyInstalled (ip username : String)
  /-- The keys were removed. -/
  | keyRemoved (ip : String)
  /-- There was no key to remove. -/
  | alreadyDisabled (ip : String)
  /-- The unit is offline or has no address. -/
  | unreachable
  deriving DecidableEq, Repr

/-- The table of STATE_DB with the midplane addresses. -/
def midplaneTable : String := "CHASSIS_MIDPLANE_TABLE"

/-- The table of STATE_DB with the operational states. -/
def moduleTable : String := "CHASSIS_MODULE_TABLE"

/-- The field with an address. -/
def addressField : String := "ip_address"

/-- The field with an operational state. -/
def operStatusField : String := "oper_status"

/-- The operational state of a unit that is not running. -/
def offline : String := "Offline"

/-- The midplane address of a unit, unless it is unknown or the unit is offline. -/
def midplaneAddress (module : String) : Store.Client (Option String) := do
  let ip ← Store.hget (Store.rawKey midplaneTable module) addressField
  let status ← Store.hget (Store.rawKey moduleTable module) operStatusField
  return if status = some offline then none else ip

namespace Provisioner

/-- The server at an address. -/
def target (p : Provisioner) (ip : String) : Target := ⟨ip, p.port, p.connectTimeout⟩

/-- The pairs to log in with, of which there has to be one. -/
def credentials (p : Provisioner) : Step (List Credential) := do
  let pairs ← onFiles (Credentials.read p.passwordFile)
  if pairs.isEmpty then
    throw (.noCredentials p.passwordFile)
  return pairs

/-- The program that makes keys. -/
def keyGenerator : String := "/usr/bin/ssh-keygen"

/-- The command that makes the local keys. -/
def generateCommand (p : Provisioner) : String :=
  keyGenerator ++ " -t rsa -b 4096 -f " ++ Shell.quote p.privateKeyFile ++ " -N ''"

/-- The local public key, which is made first where there is none. -/
def localKey (p : Provisioner) : Step String := do
  let present ← onFile (.isPresent p.publicKeyFile)
  if !present then
    let _ ← Attempt.request (.shell p.generateCommand) fun r =>
      (r.bind (·.orFailed p.generateCommand)).mapError Error.system
  let key ← Attempt.request (.file (.read p.publicKeyFile)) fun r =>
    (r.bind Files.textOf).mapError (Error.file p.publicKeyFile)
  return Text.trimmed key

/-- Tries pairs in order until one installs a key, and names its user. -/
def installWith (t : Target) (command : String) : List Credential → Step String
  | [] => throw (.allAttemptsFailed t.host)
  | c :: cs => do
      match ← attempt t c command with
      | .ok r => if r.success then return c.username else installWith t command cs
      | .error _ => installWith t command cs

/-- Installs the local key at an address, and names the user it was installed for. -/
def install (p : Provisioner) (ip : String) : Step String := do
  let pairs ← p.credentials
  let key ← p.localKey
  installWith (p.target ip) (installCommand key) pairs

/-- Tries pairs in order until one removes the keys without a complaint. -/
def removeWith (t : Target) : List Credential → Step Unit
  | [] => throw (.allAttemptsFailed t.host)
  | c :: cs => do
      match ← attempt t c removeCommand with
      | .ok r => if r.stderr = "" then return () else removeWith t cs
      | .error _ => removeWith t cs

/-- Removes the keys at an address. -/
def remove (p : Provisioner) (ip : String) : Step Unit := do
  let pairs ← p.credentials
  removeWith (p.target ip) pairs

/-- The state that the first of some pairs that logs in reports. -/
def stateWith (t : Target) : List Credential → Step KeyState
  | [] => return .disabled
  | c :: cs => do
      match ← attempt t c checkCommand with
      | .ok r => return if r.stdout = keysPresent then .enabled else .disabled
      | .error _ => stateWith t cs

/-- The state at an address. -/
def keyState (p : Provisioner) (ip : String) : Step KeyState := do
  let pairs ← onFiles (Credentials.read p.passwordFile)
  stateWith (p.target ip) pairs

/-- Installs the local key on a unit. -/
def enable (p : Provisioner) (module : String) : Step Provisioned := do
  match ← onState (midplaneAddress module) with
  | none => return .unreachable
  | some ip => return .keyInstalled ip (← p.install ip)

/-- Removes the keys from a unit that has any. -/
def disable (p : Provisioner) (module : String) : Step Provisioned := do
  match ← onState (midplaneAddress module) with
  | none => return .unreachable
  | some ip =>
      match ← p.keyState ip with
      | .disabled => return .alreadyDisabled ip
      | .enabled => do
          p.remove ip
          return .keyRemoved ip

/-- The state of a unit.  An unreachable one is disabled. -/
def unitState (p : Provisioner) (module : String) : Step KeyState := do
  match ← onState (midplaneAddress module) with
  | none => return .disabled
  | some ip => p.keyState ip

end Provisioner

end ChassisAdmin.Remote
