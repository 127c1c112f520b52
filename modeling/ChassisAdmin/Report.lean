import ChassisAdmin.Chassis

/-!
# What the operator is told

The lines that a command on a module prints: what the guard decided, and then
what was done to the services of a fabric card.
-/

namespace ChassisAdmin

/-- The lines on the decision of the guard. -/
def requestMessages (r : TransitionReport) : List String :=
  let module := r.module.name
  let verb := match r.target with
    | .down => "shutdown"
    | .up => "startup"
  let under := match r.target with
    | .down => "Shutting down chassis module " ++ module
    | .up => "Starting up chassis module " ++ module
  match r.outcome with
  | .alreadyInTargetState =>
      match r.target with
      | .down => ["Module " ++ module ++ " is already in down state"]
      | .up => ["Module " ++ module ++ " is already set to up state"]
  | .rejectedDuplicateInProgress =>
      ["Module " ++ module ++ " state transition is already in progress"]
  | .appliedAfterTimeoutReclaim =>
      ["Previous transition for module " ++ module ++ " timed out. Proceeding with " ++ verb ++ ".",
        under]
  | .applied => [under]

/-- The line on a service that was stopped. -/
def stopMessage (asic : Nat) : String := "Stop swss@" ++ Text.decimal asic ++ " and peer services"

/-- The line on a service that was started. -/
def startMessage (asic : Nat) : String := "Start swss@" ++ Text.decimal asic ++ " and peer services"

/-- The line on the rows that were deleted. -/
def deleteMessage : String := "Delete related CHASSIS_FABRIC_ASIC_TABLE entries"

/-- The lines on what was done to services. -/
def fabricMessages : Fabric.Outcome → List String
  | .noAsics => []
  | .started asics => asics.map startMessage
  | .restarted asics => asics.map stopMessage ++ deleteMessage :: asics.map startMessage

/-- All lines of a command on a module. -/
def transitionMessages (r : TransitionReport) : List String :=
  requestMessages r ++ (r.fabric.map fabricMessages).getD []

end ChassisAdmin
