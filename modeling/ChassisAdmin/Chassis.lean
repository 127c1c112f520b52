import ChassisAdmin.Fabric
import ChassisAdmin.Keyed
import ChassisAdmin.Platform.Info

/-!
# Commands on modules

A chassis ties the parts together.  It checks the name an operator gives, puts
the request to the guard and, when the guard has written a new status for a
fabric card, reconciles the card's services.  It also reports on all modules.

A request has two parts that the caller runs one after the other, since the
operator is told of the first before the second begins: `request` asks the
guard, and `reconcileFabric` does the rest.  `transition` is both.
-/

namespace ChassisAdmin

open Fabric (Step onConfig)

/-- The outcome of a command on a module. -/
structure TransitionReport where
  /-- The module. -/
  module : ModuleName
  /-- The status asked for. -/
  target : AdminStatus
  /-- What the guard did. -/
  outcome : TransitionOutcome
  /-- What was done to the services, for a fabric card whose status was written. -/
  fabric : Option Fabric.Outcome
  deriving DecidableEq

/-- The modules of a chassis under administration. -/
structure Chassis where
  /-- The platform. -/
  platform : Platform
  /-- The guard of the status of modules. -/
  guard : Guard
  /-- Reconciles the services of fabric cards, where that is provided for. -/
  fabric : Option Fabric.Reconciler

/-- A chassis whose guard tracks changes if the platform is a smartswitch. -/
def Chassis.new (platform : Platform) (now : Time.DateTime) : Chassis :=
  ⟨platform, ⟨platform.smartswitch, now⟩, none⟩

namespace Chassis

/-- The module an operator means by a name: on a smartswitch one of the DPUs, elsewhere any name
that begins like that of a module. -/
def resolveModule (c : Chassis) (name : String) : Except ChassisError ModuleName :=
  if c.platform.smartswitch then
    match c.platform.findDpu name with
    | some dpu => ModuleName.parse dpu
    | none => .error (.unknownDpu name c.platform.dpus)
  else
    ModuleName.parse name

/-- Asks the guard for a change of a module's status. -/
def request (c : Chassis) (module : ModuleName) (target : AdminStatus) :
    Store.Client TransitionReport :=
  return ⟨module, target, ← c.guard.requestTransition module target, none⟩

/-- Reconciles the services of a fabric card whose status was written.  Does nothing for other
modules, or where nothing was written. -/
def reconcileFabric (c : Chassis) (report : TransitionReport) : Step TransitionReport :=
  if !report.outcome.isApplied || !report.module.isFabricCard then
    return report
  else
    match c.fabric with
    | none => throw (.system (.internal "fabric card transition without a fabric reconciler"))
    | some r => do
        let fabric ← Fabric.reconcile r report.module report.target
        return { report with fabric := some fabric }

/-- Runs the whole of a command on a module. -/
def transition (c : Chassis) (module : ModuleName) (target : AdminStatus) :
    Step TransitionReport := do
  let report ← onConfig (c.request module target)
  c.reconcileFabric report

/-- Shuts a module down. -/
def shutdown (c : Chassis) (module : ModuleName) : Step TransitionReport :=
  c.transition module .down

/-- Starts a module up. -/
def startup (c : Chassis) (module : ModuleName) : Step TransitionReport :=
  c.transition module .up

/-- The states of modules, one after the other. -/
def statesOf (c : Chassis) : List String → Store.Client (List (String × TransitionState))
  | [] => return []
  | name :: names => do
      let state ← c.guard.transitionState name
      let rest ← c.statesOf names
      return (name, state) :: rest

/-- The names of all known modules, ascending: those with a record and the DPUs. -/
def knownModules (c : Chassis) : Store.Client (List String) := do
  let keys ← Store.keys Module.keyPattern
  let names := keys.map Module.nameOfKey ++ c.platform.dpus
  return (Keyed.ofList (names.map fun n => (n, ()))).keys

/-- The states of all known modules in ascending order of their names, or of the modules with a
given name up to the case of ASCII letters. -/
def moduleStatuses (c : Chassis) (only : Option String) :
    Store.Client (List (String × TransitionState)) := do
  let names ← c.knownModules
  match only with
  | none => c.statesOf names
  | some name => c.statesOf (names.filter fun n => Text.equalIgnoringCase name n)

end Chassis

end ChassisAdmin
