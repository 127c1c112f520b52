import ChassisAdmin.Module.Error
import ChassisAdmin.Store.Database

/-!
# Failures of commands

A command fails while it is prepared, on a module, on the credentials file or a
remote unit, or because it did not get through with every unit.  The operator is
told in one line, from the outside to the inside: what was being prepared, what
failed, and the cause below that.  Some failures name their cause themselves, so
it is told twice.

The exit status is 2 where the operator named something that does not exist, and
1 for every other failure.
-/

namespace ChassisAdmin.CommandLine

/-- What has to be there before a command begins. -/
inductive Preparation where
  /-- The configuration. -/
  | configuration
  /-- What is known of the platform. -/
  | platform
  /-- The connection to a database. -/
  | database (database : Store.Database)
  deriving DecidableEq, Repr

/-- The wording of a preparation under way. -/
def Preparation.text : Preparation → String
  | configuration => "loading configuration"
  | platform => "detecting platform"
  | database d => "connecting to " ++ d.name

/-- Why a command failed. -/
inductive Failure where
  /-- A preparation failed. -/
  | unprepared (step : Preparation) (cause : SystemError)
  /-- A command on modules failed. -/
  | module (cause : ChassisError)
  /-- The credentials file or a remote unit could not be used. -/
  | remote (cause : Remote.Error)
  /-- So many of the units chosen could not be provisioned. -/
  | unfinished (failed chosen : Nat)
  deriving DecidableEq, Repr

namespace Failure

/-- What is told of a failure, from the outside to the inside. -/
def parts : Failure → List String
  | unprepared step cause => step.text :: cause.message :: cause.cause?.toList
  | module cause => cause.message :: cause.cause?.toList
  | remote cause => cause.message :: cause.cause?.toList
  | unfinished failed chosen =>
      [Text.decimal failed ++ " of " ++ Text.decimal chosen ++ " DPUs failed"]

/-- The line on a failure. -/
def message (f : Failure) : String := "Error: " ++ Text.joined ": " f.parts

/-- The exit status of a failure. -/
def exitStatus : Failure → Nat
  | module cause => if cause.isUsage then 2 else 1
  | _ => 1

end Failure

end ChassisAdmin.CommandLine
