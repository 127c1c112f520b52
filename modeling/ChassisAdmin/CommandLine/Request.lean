import ChassisAdmin.Chassis
import ChassisAdmin.CommandLine.Failure
import ChassisAdmin.Config

/-!
# What the command line asks for

A command of the command line asks its surroundings for files, the environment,
the clock, databases, services, remote units and pauses, and for lines to be
written.  A database is named by its address, so the parts of the library that
speak of databases by their role are told here where the roles are.
-/

namespace ChassisAdmin.CommandLine

/-- A request of a command. -/
inductive Request where
  /-- A call on a file. -/
  | file (call : Files.Call)
  /-- The value of a name in the environment, as bytes. -/
  | environment (name : String)
  /-- The reading of the clock. -/
  | clock
  /-- A connection to a database. -/
  | connect (address : Store.Address)
  /-- A call on a database. -/
  | store (address : Store.Address) (call : Store.Call)
  /-- A call on the service manager. -/
  | service (call : Service.Call)
  /-- A local shell command. -/
  | shell (command : String)
  /-- A command on a remote unit. -/
  | execute (target : Remote.Target) (credential : Credential) (command : String)
  /-- A pause of so many nanoseconds. -/
  | pause (time : Nat)
  /-- A line for the operator. -/
  | print (line : String)
  /-- A line on something that went wrong. -/
  | complain (line : String)
  deriving DecidableEq, Repr

/-- The answer to a request. -/
abbrev Answer : Request → Type
  | .file c => Files.Answer c
  | .environment _ => Option (List UInt8)
  | .clock => Time.DateTime
  | .connect _ => Except SystemError Unit
  | .store _ c => Store.Answer c
  | .service c => Service.Answer c
  | .shell _ => Except SystemError Shell.Result
  | .execute .. => Except Remote.Error Shell.Result
  | .pause _ | .print _ | .complain _ => Unit

/-- A part of a command. -/
abbrev Step (α : Type) : Type := Attempt Request Answer Failure α

/-- The program of one request. -/
def ask (r : Request) : Program Request Answer (Answer r) := Program.request r

/-- A request that cannot fail. -/
def get (r : Request) : Step (Answer r) := Attempt.request r .ok

/-- Writes a line for the operator. -/
def print (line : String) : Step Unit := Attempt.request (.print line) .ok

/-- Writes a line on something that went wrong. -/
def complain (line : String) : Step Unit := Attempt.request (.complain line) .ok

/-- Writes lines for the operator. -/
def printAll : List String → Step Unit
  | [] => return ()
  | line :: lines => do
      print line
      printAll lines

/-- Runs a program over files that may fail. -/
def onFiles {ε α : Type} (failure : ε → Failure) (p : Attempt Files.Call Files.Answer ε α) :
    Step α :=
  (p.interpret fun c => ask (.file c)).mapError failure

/-- Asks for what a command on modules asks for. -/
def askForModules (c : Config) : (r : Fabric.Request) → Program Request Answer (Fabric.Answer r)
  | .config call | .observed call => ask (.store (c.address .config) call)
  | .chassisState call => ask (.store (c.address .chassisState) call)
  | .service call => ask (.service call)
  | .pause time => ask (.pause time)

/-- Runs a part of a command on modules. -/
def onModules {α : Type} (c : Config) (p : Fabric.Step α) : Step α :=
  (p.interpret (askForModules c)).mapError .module

/-- Asks for what provisioning asks for. -/
def askForProvisioning (c : Config) :
    (r : Remote.Request) → Program Request Answer r.Answer
  | .state call => ask (.store (c.address .state) call)
  | .file call => ask (.file call)
  | .shell command => ask (.shell command)
  | .execute target credential command => ask (.execute target credential command)

/-- Runs a part of provisioning. -/
def onRemote {α : Type} (c : Config) (p : Remote.Step α) :
    Attempt Request Answer Remote.Error α :=
  p.interpret (askForProvisioning c)

/-- Connects to a database. -/
def connect (c : Config) (d : Store.Database) : Step Unit :=
  Attempt.request (.connect (c.address d)) fun r => r.mapError (.unprepared (.database d))

end ChassisAdmin.CommandLine
