import ChassisAdmin.CommandLine.Command

/-!
# The grammar of the command line

The words of the command line form a tree.  An inner node is a word that needs
another after it, and a leaf is a command with its operands.
-/

namespace ChassisAdmin.CommandLine

/-- The operands that a command takes, and the command they make. -/
inductive Operands where
  /-- No operands. -/
  | none (command : Command)
  /-- One operand. -/
  | one (make : String → Command)
  /-- One operand that may be left out. -/
  | atMostOne (make : Option String → Command)
  /-- Two operands. -/
  | two (make : String → String → Command)

namespace Operands

/-- The greatest number of operands. -/
def most : Operands → Nat
  | none _ => 0
  | one _ | atMostOne _ => 1
  | two _ => 2

/-- The command that operands make, if none is missing. -/
def command? : Operands → List String → Option Command
  | none c, _ => some c
  | one make, a :: _ => some (make a)
  | atMostOne make, l => some (make l.head?)
  | two make, a :: b :: _ => some (make a b)
  | _, _ => .none

end Operands

/-- A word of the command line and what may follow it. -/
inductive Node where
  /-- A command. -/
  | leaf (word : String) (operands : Operands)
  /-- A word that needs one of some words after it. -/
  | group (word : String) (members : List Node)

namespace Node

/-- The word of a node. -/
def word : Node → String
  | leaf w _ | group w _ => w

/-- The node that a word leads to. -/
def member? : Node → String → Option Node
  | leaf .., _ => none
  | group _ members, w => members.find? (·.word == w)

end Node

/-- The name of the program. -/
def programName : String := "chassis-modules"

/-- The words after `config dpu-ssh`. -/
def loginNode : Node := .group "dpu-ssh"
  [.leaf "enable" (.one .enableLogin), .leaf "disable" (.one .disableLogin)]

/-- The words after `config dpu-credentials`. -/
def credentialsNode : Node := .group "dpu-credentials"
  [.leaf "add" (.two fun u p => .addCredential ⟨u, p⟩),
    .leaf "replace" (.two fun u p => .replaceCredentials ⟨u, p⟩),
    .leaf "remove" (.none .removeCredentials)]

/-- The words after `config`. -/
def configNode : Node := .group "config"
  [.leaf "shutdown" (.one .shutdown), .leaf "startup" (.one .startup), loginNode, credentialsNode]

/-- The words after `show`. -/
def showNode : Node := .group "show"
  [.leaf "status" (.atMostOne .showStatus), .leaf "dpu-ssh" (.one .showLogin)]

/-- The root of the tree of words. -/
def root : Node := .group programName [configNode, showNode]

end ChassisAdmin.CommandLine
