import ChassisAdmin.Module.Record
import ChassisAdmin.Time.Timestamp

/-!
# The transition guard

Every change of a module's admin status goes through the guard.  It reads the
module's record, decides, and writes at most twice.

* A module that has the target status already is left alone.
* On a standard chassis `down` is written as a record with nothing but the
  status, and `up` deletes the record, since a module without one is up.
* On a smartswitch the record also says that a change is under way and when it
  started.  While it is, further requests for the module are rejected.  A change
  that started more than 240 seconds ago counts as abandoned.  It is cleared
  first and the new status is written then, which makes two writes.

A start time that is missing, cannot be read or lies in the future never counts
as timed out.

Reading, deciding and writing are separate calls on the store.  Two programs
that request the same module at the same moment can both see it free and both
write.

A guard is made for one command and takes one reading of the clock.
-/

namespace ChassisAdmin

open Time (DateTime)

/-- What the guard did with a request. -/
inductive TransitionOutcome where
  /-- The new status was written. -/
  | applied
  /-- The module had the status already, and nothing was written. -/
  | alreadyInTargetState
  /-- Another change is under way, and nothing was written. -/
  | rejectedDuplicateInProgress
  /-- An abandoned change was cleared and the new status written. -/
  | appliedAfterTimeoutReclaim
  deriving DecidableEq, Repr

/-- Whether the new status was written. -/
def TransitionOutcome.isApplied : TransitionOutcome → Bool
  | applied | appliedAfterTimeoutReclaim => true
  | alreadyInTargetState | rejectedDuplicateInProgress => false

/-- What is known of a module: its status and the change under way. -/
structure TransitionState where
  /-- The admin status. -/
  adminStatus : AdminStatus
  /-- Whether a change is under way. -/
  inProgress : Bool
  /-- When it started, as it stands in the store. -/
  startTime : Option String
  /-- Whether it started too long ago. -/
  timedOut : Bool
  deriving DecidableEq, Repr

/-- The age in seconds above which a change counts as abandoned. -/
def transitionTimeout : Nat := 240

/-- The guard of the admin status of modules. -/
structure Guard where
  /-- Whether the platform is a smartswitch, on which changes are tracked. -/
  smartswitch : Bool
  /-- The reading of the clock. -/
  now : DateTime

namespace Guard

/-! ## What a record says -/

/-- The admin status in a record, or the default of the platform. -/
def adminStatusOf (g : Guard) (entry : Option Fields) : AdminStatus :=
  ((entry.bind (·.get? Module.adminStatusField)).bind AdminStatus.ofText?).getD
    (.platformDefault g.smartswitch)

/-- Whether a record says that a change is under way. -/
def inProgressOf (entry : Option Fields) : Bool :=
  ((entry.bind (·.get? Module.inProgressField)).map flagOfText).getD false

/-- The start time in a record, as it stands there. -/
def startTimeOf (entry : Option Fields) : Option String :=
  entry.bind (·.get? Module.startTimeField)

/-- Whether a change that started at an instant is abandoned by now. -/
def isAbandoned (g : Guard) (start : DateTime) : Bool :=
  (transitionTimeout * Time.nanosPerSecond : Int) < g.now.since start

/-- Whether the change that a record tells of is abandoned by now. -/
def timedOutOf (g : Guard) (entry : Option Fields) : Bool :=
  (((startTimeOf entry).bind Time.parseTimestamp).map g.isAbandoned).getD false

/-- All that a record says. -/
def stateOf (g : Guard) (entry : Option Fields) : TransitionState :=
  { adminStatus := g.adminStatusOf entry
    inProgress := inProgressOf entry
    startTime := startTimeOf entry
    timedOut := g.timedOutOf entry }

/-! ## Records to write -/

/-- The record of a status on a standard chassis: only `down` needs one. -/
def plainRecord : AdminStatus → Option Fields
  | .down => some [(Module.adminStatusField, AdminStatus.down.text)]
  | .up => none

/-- The record of a change that starts now. -/
def startedRecord (g : Guard) (target : AdminStatus) : Fields :=
  [(Module.adminStatusField, target.text), (Module.inProgressField, flagText true),
    (Module.startTimeField, Time.formatTimestamp g.now)]

/-- A record after the change it tells of is cleared. -/
def clearedRecord (entry : Option Fields) : Fields :=
  ((entry.getD []).set Module.inProgressField (flagText false)).erase Module.startTimeField

/-! ## Questions and requests -/

/-- Reads the record of a module. -/
def entry (name : String) : Store.Client (Option Fields) := Store.getEntry Module.table name

/-- The admin status of a module. -/
def currentAdminStatus (g : Guard) (name : String) : Store.Client AdminStatus :=
  return g.adminStatusOf (← entry name)

/-- Whether a change of a module is under way. -/
def isInProgress (name : String) : Store.Client Bool := return inProgressOf (← entry name)

/-- Whether the change of a module is abandoned. -/
def isTimedOut (g : Guard) (name : String) : Store.Client Bool :=
  return g.timedOutOf (← entry name)

/-- All that is known of a module, read at once. -/
def transitionState (g : Guard) (name : String) : Store.Client TransitionState :=
  return g.stateOf (← entry name)

/-- Clears the change under way and keeps every other field of the record. -/
def clearTransition (name : String) : Store.Client Unit := do
  let entry ← entry name
  Store.setEntry Module.table name (some (clearedRecord entry))

/-- Writes the record of a change that starts now. -/
def start (g : Guard) (name : String) (target : AdminStatus) : Store.Client Unit :=
  Store.setEntry Module.table name (some (g.startedRecord target))

/-- Requests a change of a module's admin status. -/
def requestTransition (g : Guard) (module : ModuleName) (target : AdminStatus) :
    Store.Client TransitionOutcome := do
  let name := module.name
  let entry ← entry name
  if g.adminStatusOf entry = target then
    return .alreadyInTargetState
  else if !g.smartswitch then
    Store.setEntry Module.table name (plainRecord target)
    return .applied
  else if !inProgressOf entry then
    g.start name target
    return .applied
  else if g.timedOutOf entry then
    clearTransition name
    g.start name target
    return .appliedAfterTimeoutReclaim
  else
    return .rejectedDuplicateInProgress

end Guard

end ChassisAdmin
