import ChassisAdmin.Service
import ChassisAdmin.Text.Split

/-!
# A service manager that keeps a record

A service manager that runs nothing and writes down each call as its verb and
its unit.  Every call on a failing unit is refused.  A stuck unit reports that it
is active, and every other unit that it is not.

`withoutManager` answers calls on a machine that has no service manager and
gives nobody administrator rights.
-/

namespace ChassisAdmin.Simulation

/-- A service manager that keeps a record. -/
structure Services where
  /-- Units that stay active. -/
  stuck : List String
  /-- Units every call on which fails. -/
  failing : List String
  /-- The calls so far, in order. -/
  commands : List String

namespace Services

/-- The record of a call. -/
def entry (c : Service.Call) : String := c.verb ++ " " ++ c.unit

/-- The error of a call on a failing unit. -/
def refusal (c : Service.Call) : SystemError :=
  .commandFailed ("systemctl " ++ entry c) 1 ("Failed to " ++ entry c)

/-- Answers a call. -/
def answer (c : Service.Call) (s : Services) : Service.Answer c × Services :=
  let s' := { s with commands := s.commands ++ [entry c] }
  if s.failing.contains c.unit then (.error (refusal c), s')
  else
    match c with
    | .isActive unit => (.ok (s.stuck.contains unit), s')
    | .start _ | .stop _ | .resetFailed _ => (.ok (), s')

end Services

/-- What is reported where nobody has administrator rights. -/
def noRights : List String :=
  ["sudo: /etc/sudoers is owned by uid 65534, should be 0",
    "sudo: no valid sudoers sources found, quitting",
    "sudo: error initializing audit plugin sudoers_audit"]

/-- The result of the shell command of a call on a machine without a service manager. -/
def resultWithoutManager (c : Service.Call) : Shell.Result :=
  match c with
  | .isActive _ => ⟨127, "", "/bin/sh: 1: " ++ Service.systemctl ++ ": not found"⟩
  | .start _ | .stop _ | .resetFailed _ =>
      ⟨1, "", Text.joined "\n" noRights⟩

/-- Answers a call on a machine without a service manager. -/
def withoutManager (c : Service.Call) : Service.Answer c :=
  Service.answerOf c (.ok (resultWithoutManager c))

end ChassisAdmin.Simulation
