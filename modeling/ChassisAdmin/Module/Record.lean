import ChassisAdmin.Fields
import ChassisAdmin.Module.Name
import ChassisAdmin.Store.Call

/-!
# The records of modules

CONFIG_DB holds one record for each module whose state is not the default of its
platform.  A record has the admin status.  On a smartswitch it also has a flag
that says whether a change is under way, and while it is, the time it started.
-/

namespace ChassisAdmin.Module

/-- The table of CONFIG_DB with the state of modules. -/
def table : String := "CHASSIS_MODULE"

/-- The field with the admin status. -/
def adminStatusField : String := "admin_status"

/-- The field with the flag of a change under way. -/
def inProgressField : String := "state_transition_in_progress"

/-- The field with the time a change started. -/
def startTimeField : String := "transition_start_time"

/-- The raw key of the record of a module. -/
def recordKey (name : String) : String := Store.rawKey table name

/-- The pattern of the raw keys of all modules. -/
def keyPattern : String := Store.rawKey table "*"

/-- The name of the module that a raw key belongs to. -/
def nameOfKey (key : String) : String :=
  String.ofList (key.toList.drop (Store.rawKey table "").length)

end ChassisAdmin.Module
