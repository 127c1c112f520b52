import ChassisAdmin.Check.Mismatch
import ChassisAdmin.Text.Split

/-!
# Checks on the commands a service manager was given

The commands are compared with a text that has to occur in one of them, or in
none, with their number, or with the whole sequence.
-/

namespace ChassisAdmin.Check.Commands

/-- A check on commands. -/
abbrev Verdict : Type := Except Mismatch Unit

/-- Passes if a condition holds. -/
def require (commands : List String) (holds : Bool) (check : String) : Verdict :=
  if holds then .ok () else .error (.commands check commands)

/-- A text has to occur in a command. -/
def executed (commands : List String) (text : String) : Verdict :=
  require commands (commands.any (Text.contains · text)) ("executed '" ++ text ++ "'")

/-- A text must not occur in any command. -/
def notExecuted (commands : List String) (text : String) : Verdict :=
  require commands (!commands.any (Text.contains · text)) ("not executed '" ++ text ++ "'")

/-- There have to be so many commands. -/
def count (commands : List String) (expected : Nat) : Verdict :=
  require commands (commands.length == expected) (Text.decimal expected ++ " commands")

/-- The commands have to be these. -/
def sequence (commands expected : List String) : Verdict :=
  require commands (commands == expected) ("sequence " ++ Text.quotedList expected)

end ChassisAdmin.Check.Commands
