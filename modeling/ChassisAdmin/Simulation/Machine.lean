import ChassisAdmin.CommandLine.Request
import ChassisAdmin.Simulation.FileTree
import ChassisAdmin.Simulation.RedisServer
import ChassisAdmin.Simulation.RemoteHosts
import ChassisAdmin.Simulation.RemoteScript
import ChassisAdmin.Simulation.Services

/-!
# A machine in memory

A machine that answers everything a command of the command line asks for: files,
an environment, a clock, a server of databases, a network of remote units and a
place for the lines that are written.  It has no service manager, no rights to
give, and no programs for shell commands.  One server stands behind every
address, and pauses pass at once.
-/

namespace ChassisAdmin.Simulation

open CommandLine (Request Answer)

/-- The surroundings of a command. -/
structure Machine where
  /-- The files. -/
  files : FileTree
  /-- The names in the environment with their values. -/
  environment : List (String × String)
  /-- The reading of the clock. -/
  clock : Time.DateTime
  /-- The server of databases. -/
  server : RedisServer
  /-- The remote units. -/
  network : Network
  /-- The lines written for the operator. -/
  output : List String
  /-- The lines on what went wrong. -/
  complaints : List String

namespace Machine

/-- The value of a name in the environment. -/
def valueOf (m : Machine) (name : String) : Option (List UInt8) :=
  (m.environment.find? (·.1 == name)).map fun e => Text.Utf8.encode e.2

/-- Answers a request. -/
def answer : (r : Request) → Machine → Answer r × Machine
  | .file c, m =>
      let r := FileTree.answer c m.files
      (r.1, { m with files := r.2 })
  | .environment name, m => (m.valueOf name, m)
  | .clock, m => (m.clock, m)
  | .connect a, m => (m.server.connect a, m)
  | .store a c, m =>
      let r := RedisServer.answerCall a.number c m.server
      (r.1, { m with server := r.2 })
  | .service c, m => (withoutManager c, m)
  | .shell command, m => (.ok (RemoteScript.notInstalled command), m)
  | .execute target credential command, m =>
      let r := m.network.run (Remote.execute target credential command)
      (r.1, { m with network := r.2 })
  | .pause _, m => ((), m)
  | .print line, m => ((), { m with output := m.output ++ [line] })
  | .complain line, m => ((), { m with complaints := m.complaints ++ [line] })

/-- Runs a program to its value. -/
def run {α : Type} (p : Program Request Answer α) (m : Machine) : α × Machine :=
  Program.run answer p m

end Machine

end ChassisAdmin.Simulation
