import ChassisAdmin.Remote.Provision
import ChassisAdmin.Simulation.FileTree
import ChassisAdmin.Simulation.FlakyStore
import ChassisAdmin.Text.Split

/-!
# Rehearsing the provisioning of remote units

A rehearsal answers what a provisioner asks for: STATE_DB in memory, local files
in memory and remote units that follow rules.  A remote command is answered by
the first rule that fits it and has not been used up.  Where no rule fits, the
login is refused.  The remote commands are written down.  No program is
installed on this machine, so a local command is not found.
-/

namespace ChassisAdmin.Simulation

open Remote

/-- A remote command with the server it went to and the pair it was run with. -/
structure Execution where
  /-- The server. -/
  target : Target
  /-- The pair. -/
  credential : Credential
  /-- The command. -/
  command : String
  deriving DecidableEq, Repr

/-- A rule on the answers to remote commands. -/
structure RemoteRule where
  /-- The user it is for, or any. -/
  user : Option String
  /-- The password it is for, or any. -/
  password : Option String
  /-- The server it is for, or any. -/
  host : Option String
  /-- A text in the commands it is for. -/
  containing : String
  /-- How often it can still be used, if that is limited. -/
  times : Option Nat
  /-- The answer. -/
  answer : Except Error Shell.Result

namespace RemoteRule

/-- Whether a rule answers a command. -/
def fits (r : RemoteRule) (e : Execution) : Bool :=
  r.user.all (· == e.credential.username) && r.password.all (· == e.credential.password) &&
    r.host.all (· == e.target.host) && Text.contains e.command r.containing &&
    r.times.all (· != 0)

/-- The rule after it was used. -/
def used (r : RemoteRule) : RemoteRule := { r with times := r.times.map (· - 1) }

/-- Answers a command by the first rule that fits, and says what is left of the rules. -/
def select (e : Execution) : List RemoteRule → Except Error Shell.Result × List RemoteRule
  | [] => (.error (.authenticationFailed e.target.host e.credential.username), [])
  | r :: rs =>
      if r.fits e then (r.answer, r.used :: rs)
      else
        let rest := select e rs
        (rest.1, r :: rest.2)

end RemoteRule

/-- The surroundings of a provisioner. -/
structure RemoteScript where
  /-- STATE_DB. -/
  state : FlakyStore
  /-- The local files. -/
  files : FileTree
  /-- The rules on remote commands. -/
  rules : List RemoteRule
  /-- The remote commands so far, in order. -/
  executions : List Execution

namespace RemoteScript

/-- The result of a local command whose program is not installed. -/
def notInstalled (command : String) : Shell.Result :=
  ⟨127, "", "/bin/sh: 1: " ++ String.ofList (command.toList.takeWhile (· ≠ ' ')) ++ ": not found"⟩

/-- Answers a request. -/
def answer : (r : Request) → RemoteScript → r.Answer × RemoteScript
  | .state c, w =>
      let r := FlakyStore.answer c w.state
      (r.1, { w with state := r.2 })
  | .file c, w =>
      let r := FileTree.answer c w.files
      (r.1, { w with files := r.2 })
  | .shell command, w => (.ok (notInstalled command), w)
  | .execute target credential command, w =>
      let e : Execution := ⟨target, credential, command⟩
      let r := RemoteRule.select e w.rules
      (r.1, { w with rules := r.2, executions := w.executions ++ [e] })

/-- Runs a part of provisioning. -/
def run {α : Type} (p : Step α) (w : RemoteScript) : Except Error α × RemoteScript :=
  Attempt.runWith answer p w

end RemoteScript

end ChassisAdmin.Simulation
