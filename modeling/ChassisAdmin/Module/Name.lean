import ChassisAdmin.Module.Error

/-!
# Module names

A module is a replaceable unit of the chassis.  Its name begins with its kind,
as in `LINE-CARD0` or `DPU1`, and nothing is asked of the rest of the name.  The
beginnings are looked for in a fixed order and with regard to case.

A `ModuleName` carries its kind together with the fact that the name begins that
way, so a name that was never checked cannot be passed for a module.
-/

namespace ChassisAdmin

/-- The kinds of replaceable units. -/
inductive ModuleKind where
  /-- A supervisor card. -/
  | supervisor
  /-- A line card. -/
  | lineCard
  /-- A fabric card, whose switching chips are driven by services of the supervisor. -/
  | fabricCard
  /-- A data processing unit. -/
  | dpu
  deriving DecidableEq, Repr

namespace ModuleKind

/-- The kinds in the order in which names are compared with them. -/
def all : List ModuleKind := [supervisor, lineCard, fabricCard, dpu]

/-- The beginning of the names of a kind. -/
def stem : ModuleKind → String
  | supervisor => "SUPERVISOR"
  | lineCard => "LINE-CARD"
  | fabricCard => "FABRIC-CARD"
  | dpu => "DPU"

/-- The kind a name begins with. -/
def ofName? (name : String) : Option ModuleKind :=
  all.find? fun k => k.stem.toList.isPrefixOf name.toList

end ModuleKind

/-- A name that begins with a kind of module. -/
structure ModuleName where
  /-- The name. -/
  name : String
  /-- The kind the name begins with. -/
  kind : ModuleKind
  /-- The name begins with the kind. -/
  ofName?_eq : ModuleKind.ofName? name = some kind
  deriving DecidableEq

namespace ModuleName

/-- Checks that a name begins with a kind of module. -/
def parse (name : String) : Except ChassisError ModuleName :=
  match h : ModuleKind.ofName? name with
  | some kind => .ok ⟨name, kind, h⟩
  | none => .error (.invalidModuleName name)

/-- Whether a module is a fabric card. -/
def isFabricCard (m : ModuleName) : Bool := m.kind = .fabricCard

end ModuleName

example : ModuleKind.ofName? "FABRIC-CARD1" = some .fabricCard := by decide

example : ModuleKind.ofName? "dpu0" = none := by decide

end ChassisAdmin
