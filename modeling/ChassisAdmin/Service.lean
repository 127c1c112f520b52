import ChassisAdmin.Program
import ChassisAdmin.Shell.Quote
import ChassisAdmin.Shell.Result
import ChassisAdmin.Text.Decimal

/-!
# Services of switching chips

Each switching chip (ASIC) of a fabric card is driven by a service of the
supervisor.  Four calls control services.  On a machine each is one shell
command of the service manager.  The three that change something need
administrator rights.
-/

namespace ChassisAdmin.Service

/-- The unit of the service that drives an ASIC. -/
def unitOfAsic (asic : Nat) : String := "swss@" ++ Text.decimal asic ++ ".service"

/-- A call on the service manager. -/
inductive Call where
  /-- Starts a unit. -/
  | start (unit : String)
  /-- Stops a unit. -/
  | stop (unit : String)
  /-- Clears the failures on record for a unit, which may forbid a start. -/
  | resetFailed (unit : String)
  /-- Asks whether a unit is active. -/
  | isActive (unit : String)
  deriving DecidableEq, Repr

namespace Call

/-- What a call that succeeds answers with. -/
abbrev Value : Call → Type
  | isActive _ => Bool
  | _ => Unit

/-- The service manager's word for a call. -/
def verb : Call → String
  | start _ => "start"
  | stop _ => "stop"
  | resetFailed _ => "reset-failed"
  | isActive _ => "is-active"

/-- The unit of a call. -/
def unit : Call → String
  | start u | stop u | resetFailed u | isActive u => u

end Call

/-- The answer to a call. -/
abbrev Answer (c : Call) : Type := Except SystemError c.Value

/-- The program that runs a command with administrator rights. -/
def asRoot : String := "/usr/bin/sudo"

/-- The program that controls services. -/
def systemctl : String := "/bin/systemctl"

/-- The shell command of a call. -/
def command : Call → String
  | .isActive unit => systemctl ++ " is-active --quiet " ++ Shell.quote unit
  | c => asRoot ++ " " ++ systemctl ++ " " ++ c.verb ++ " " ++ Shell.quote c.unit

/-- The answer to a call from the result of its shell command: a unit is active when the question
succeeds, and every other call has to succeed. -/
def answerOf (c : Call) (r : Except SystemError Shell.Result) : Answer c :=
  match c with
  | .isActive _ => r.map (·.success)
  | .start _ | .stop _ | .resetFailed _ =>
      r.bind fun r => (r.orFailed (command c)).map fun _ => ()

end ChassisAdmin.Service
