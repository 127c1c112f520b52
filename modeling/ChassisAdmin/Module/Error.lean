import ChassisAdmin.Module.AdminStatus
import ChassisAdmin.Remote.Error
import ChassisAdmin.Text.Split

/-!
# Errors of module commands

Commands on modules fail for two reasons.  The operator named something that is
not a module or not a unit of this platform, which is a usage error, or the
system behind the command failed.
-/

namespace ChassisAdmin

/-- The cause of a failure to change or report the state of a module. -/
inductive ChassisError where
  /-- A name has none of the beginnings of module names. -/
  | invalidModuleName (name : String)
  /-- A name is none of the units of this platform. -/
  | unknownDpu (name : String) (available : List String)
  /-- A new admin status was not seen in the store within the time allowed. -/
  | pollTimeout (module : String) (expected : AdminStatus) (waited : Nat)
  /-- A service was still active after it was stopped. -/
  | serviceStopFailed (module unit : String)
  /-- The store, the shell or the platform failed. -/
  | system (cause : SystemError)
  /-- Remote provisioning failed. -/
  | remote (cause : Remote.Error)
  deriving DecidableEq, Repr

namespace ChassisError

/-- The wording of a failure. -/
def message : ChassisError → String
  | invalidModuleName name =>
      "Module name " ++ name ++
        " is invalid; it must start with SUPERVISOR, LINE-CARD, FABRIC-CARD or DPU"
  | unknownDpu name available =>
      "Module " ++ name ++ " is not a DPU of this platform (valid: " ++
        Text.joined ", " available ++ ")"
  | pollTimeout module expected waited =>
      "Admin state of module " ++ module ++ " did not reach " ++ expected.text ++ " within " ++
        Text.decimal (Remote.wholeSeconds waited) ++ "s"
  | serviceStopFailed module unit =>
      "Stop " ++ unit ++ " and peer services failed for module " ++ module
  | system cause => cause.message
  | remote cause => cause.message

/-- The wording of the cause that lies below a failure, where there is one. -/
def cause? : ChassisError → Option String
  | system cause => cause.cause?
  | remote cause => cause.cause?
  | _ => none

/-- Whether the operator named something that does not exist. -/
def isUsage : ChassisError → Bool
  | invalidModuleName .. | unknownDpu .. => true
  | _ => false

end ChassisError

end ChassisAdmin
