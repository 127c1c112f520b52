import ChassisAdmin.CommandLine.Parse

/-!
# Help on the command line

The forms that commands take are read off the tree of words, so the help cannot
differ from what is accepted.  They are printed where help is asked for, and
after the reason where the arguments are no command.
-/

namespace ChassisAdmin.CommandLine

/-- The operands of a command as help writes them. -/
def Operands.form : Operands → String
  | none _ => ""
  | one _ => " <NAME>"
  | atMostOne _ => " [NAME]"
  | two _ => " <USERNAME> <PASSWORD>"

mutual

/-- The forms of the commands below a node that some words lead to. -/
def Node.forms (words : String) : Node → List String
  | .leaf word operands => [words ++ word ++ operands.form]
  | .group word members => formsOf (words ++ word ++ " ") members

/-- The forms of the commands below some nodes. -/
def formsOf (words : String) : List Node → List String
  | [] => []
  | n :: ns => n.forms words ++ formsOf words ns

end

/-- The version of the program. -/
def version : String := "0.1.0"

/-- The reason for a refusal, where there is one. -/
def Refusal.reason? : Refusal → Option String
  | help | version | nothingGiven => none
  | missingWord => some "a subcommand is missing"
  | unknownWord => some "there is no such subcommand"
  | unknownArgument => some "an argument is not expected"
  | missingOperand => some "an operand is missing"
  | missingValue => some "an option lacks its value"
  | unneededValue => some "an option has a value that it does not take"
  | repeated => some "an option is repeated"

/-- What is printed for a refusal. -/
def Refusal.text (r : Refusal) : String :=
  match r with
  | version => programName ++ " " ++ CommandLine.version
  | _ =>
      let forms := (root.forms "").map fun f => "  " ++ f
      Text.joined "\n" ((r.reason?.map fun s => "error: " ++ s ++ "\n").toList ++
        "Usage: [--config <CONFIG>] [--verbose]" :: forms)

example : (showNode.forms "") = ["show status [NAME]", "show dpu-ssh <NAME>"] := by decide

end ChassisAdmin.CommandLine
