/-!
# Admin status and flags

What an operator wants of a module, and its spelling in the store.  A module
with no recorded status has the default of its platform: the data processing
units of a smartswitch stay powered off until they are configured up, and the
modules of a standard chassis are up unless they are shut down.
-/

namespace ChassisAdmin

/-- The state an operator wants a module in. -/
inductive AdminStatus where
  /-- The module is to run. -/
  | up
  /-- The module is to be shut down. -/
  | down
  deriving DecidableEq, Repr

namespace AdminStatus

/-- The spelling of a status in the store. -/
def text : AdminStatus → String
  | up => "up"
  | down => "down"

/-- Reads a status from its spelling in the store. -/
def ofText? (s : String) : Option AdminStatus :=
  if s = "up" then some up else if s = "down" then some down else none

/-- The report on a text that spells no status. -/
def unknownMessage (s : String) : String := "unknown admin status '" ++ s ++ "'"

/-- The state of a module with no recorded status. -/
def platformDefault (smartswitch : Bool) : AdminStatus := if smartswitch then down else up

theorem ofText?_text (s : AdminStatus) : ofText? s.text = some s := by
  cases s <;> decide

end AdminStatus

/-- The spelling of a flag in the store. -/
def flagText (b : Bool) : String := if b then "True" else "False"

/-- Reads a flag: anything but `True` is false. -/
def flagOfText (s : String) : Bool := s = "True"

theorem flagOfText_flagText (b : Bool) : flagOfText (flagText b) = b := by
  cases b <;> decide

end ChassisAdmin
