import ChassisAdmin.CommandLine.Parse
import ChassisAdmin.CommandLine.Request
import ChassisAdmin.Platform.Detect
import ChassisAdmin.Report
import ChassisAdmin.StatusTable

/-!
# Running commands

Every command first reads the configuration and detects the platform.  Then

* `config shutdown` and `config startup` look at the name given, connect to
  CHASSIS_STATE_DB if it is that of a fabric card, put the request to the guard
  and tell the operator what it did, and only then reconcile the services, of
  which the operator is told at the end.
* `config dpu-ssh enable` and `disable` go through all units chosen, whatever
  becomes of each, and fail at the end if any of them did.
* `config dpu-credentials` changes the credentials file.
* `show status` prints the table of module states, and `show dpu-ssh` one line
  for each unit, up to the first failure.

A name is looked at before anything it stands for is touched.  The exit status is
0 where nothing failed.
-/

namespace ChassisAdmin.CommandLine

/-! ## Preparations -/

/-- The name of the home directory in the environment. -/
def homeName : String := "HOME"

/-- The name of the platform in the environment. -/
def platformName : String := "PLATFORM"

/-- Reads the configuration. -/
def loadConfig (path : String) : Step Config := do
  let home ← get (.environment homeName)
  onFiles (.unprepared .configuration) (Config.load (home.map Text.Utf8.decodeLossy) path)

/-- Detects the platform. -/
def detectPlatform (c : Config) : Step Platform := do
  let name ← get (.environment platformName)
  onFiles (.unprepared .platform) (Platform.detect c.platform name)

/-! ## Commands on modules -/

/-- The chassis at the time of a command. -/
def chassisNow (p : Platform) : Step Chassis := return .new p (← get .clock)

/-- The chassis with what the change of a module needs.  A fabric card needs CHASSIS_STATE_DB and
a reconciler. -/
def equip (c : Config) (chassis : Chassis) (module : ModuleName) : Step Chassis :=
  if module.isFabricCard then do
    connect c .chassisState
    return { chassis with fabric := some ⟨chassis.guard, Fabric.pollTimeout⟩ }
  else
    return chassis

/-- Changes the admin status of a module. -/
def setAdminStatus (c : Config) (p : Platform) (name : String) (target : AdminStatus) :
    Step Unit := do
  connect c .config
  let chassis ← chassisNow p
  let module ← (chassis.resolveModule name).mapError Failure.module
  let chassis ← equip c chassis module
  let report ← onModules c (Fabric.onConfig (chassis.request module target))
  printAll (requestMessages report)
  let report ← onModules c (chassis.reconcileFabric report)
  printAll ((report.fabric.map fabricMessages).getD [])

/-- Shows the states of modules. -/
def showStatus (c : Config) (p : Platform) (only : Option String) : Step Unit := do
  connect c .config
  let chassis ← chassisNow p
  let statuses ← onModules c (Fabric.onConfig (chassis.moduleStatuses only))
  print (StatusTable.render statuses)

/-! ## Commands on remote units -/

/-- A change of passwordless login. -/
inductive LoginChange where
  /-- It is enabled. -/
  | enable
  /-- It is disabled. -/
  | disable
  deriving DecidableEq, Repr

/-- Makes a change on a unit. -/
def LoginChange.apply (p : Remote.Provisioner) (dpu : String) :
    LoginChange → Remote.Step Remote.Provisioned
  | enable => p.enable dpu
  | disable => p.disable dpu

/-- The line on what was done to a unit. -/
def provisionedMessage (dpu : String) : Remote.Provisioned → String
  | .keyInstalled ip username =>
      "SSH key successfully copied to " ++ dpu ++ " (" ++ ip ++ ") using " ++ username ++ "."
  | .keyRemoved ip => "SSH key removed from " ++ dpu ++ " (" ++ ip ++ ")"
  | .alreadyDisabled ip => "Passwordless SSH is not enabled on " ++ dpu ++ " (" ++ ip ++ ")"
  | .unreachable => dpu ++ " is offline or has no midplane IP"

/-- Makes a change on every unit of a list, and counts the failures. -/
def changeEach (c : Config) (change : LoginChange) : List String → Step Nat
  | [] => return 0
  | dpu :: dpus => do
      match ← (onRemote c (change.apply c.provisioner dpu)).outcome with
      | .ok done => do
          print (provisionedMessage dpu done)
          changeEach c change dpus
      | .error e => do
          complain (dpu ++ ": " ++ e.message)
          return (← changeEach c change dpus) + 1

/-- The units an operator means by an argument, once STATE_DB is connected. -/
def chooseDpus (c : Config) (p : Platform) (arg : String) : Step (List String) := do
  let dpus ← (p.selectDpus arg).mapError Failure.module
  connect c .state
  return dpus

/-- Changes the passwordless login of units. -/
def changeLogin (c : Config) (p : Platform) (change : LoginChange) (arg : String) : Step Unit := do
  let dpus ← chooseDpus c p arg
  let failed ← changeEach c change dpus
  if 0 < failed then
    throw (.unfinished failed dpus.length)

/-- Shows the states of the units of a list. -/
def showEach (c : Config) : List String → Step Unit
  | [] => return ()
  | dpu :: dpus => do
      let state ← (onRemote c (c.provisioner.unitState dpu)).mapError Failure.remote
      print (dpu ++ ": " ++ state.text)
      showEach c dpus

/-- Shows the passwordless login of units. -/
def showLogin (c : Config) (p : Platform) (arg : String) : Step Unit := do
  showEach c (← chooseDpus c p arg)

/-! ## All commands -/

/-- Runs a command on a configuration and a platform. -/
def Command.run (c : Config) (p : Platform) : Command → Step Unit
  | .shutdown module => setAdminStatus c p module .down
  | .startup module => setAdminStatus c p module .up
  | .enableLogin dpus => changeLogin c p .enable dpus
  | .disableLogin dpus => changeLogin c p .disable dpus
  | .addCredential pair => onFiles .remote (Credentials.add c.remote.passwordFile pair)
  | .replaceCredentials pair => onFiles .remote (Credentials.replace c.remote.passwordFile pair)
  | .removeCredentials => do
      onFiles .remote (Credentials.remove c.remote.passwordFile)
      print "Password file removed successfully."
  | .showStatus module => CommandLine.showStatus c p module
  | .showLogin dpus => CommandLine.showLogin c p dpus

/-- Prepares and runs a command. -/
def Invocation.run (i : Invocation) : Step Unit := do
  let config ← loadConfig i.config
  let platform ← detectPlatform config
  i.command.run config platform

/-- The exit status of a command, after the operator is told of its failure. -/
def exitStatusOf : Except Failure Unit → Program Request Answer Nat
  | .ok () => .done 0
  | .error failure => .ask (.complain failure.message) fun _ => .done failure.exitStatus

/-- Runs what the arguments say, to an exit status. -/
def Invocation.main (i : Invocation) : Program Request Answer Nat :=
  Program.bind i.run.run exitStatusOf

end ChassisAdmin.CommandLine
