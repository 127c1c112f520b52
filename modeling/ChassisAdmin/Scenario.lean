import ChassisAdmin.Fabric
import ChassisAdmin.Store.Memory

/-!
# Scenarios

A scenario is the content of the two databases that commands on modules work on:
records of modules in CONFIG_DB and rows that bind ASICs to fabric cards in
CHASSIS_STATE_DB.  It can be seeded into databases in memory, past the calls, or
written through the calls of any database.  A record without fields is written
as a deletion.
-/

namespace ChassisAdmin

/-- The record of a module. -/
structure ModuleRecord where
  /-- The name of the module. -/
  name : String
  /-- The fields. -/
  fields : Fields
  deriving DecidableEq, Repr

namespace ModuleRecord

/-- A record without fields. -/
def bare (name : String) : ModuleRecord := ⟨name, []⟩

/-- The record with a field given a value. -/
def withField (r : ModuleRecord) (field value : String) : ModuleRecord :=
  { r with fields := r.fields.set field value }

/-- The record with an admin status. -/
def withStatus (r : ModuleRecord) (s : AdminStatus) : ModuleRecord :=
  r.withField Module.adminStatusField s.text

/-- The record with a change under way and the text of its start time. -/
def startedAt (r : ModuleRecord) (start : String) : ModuleRecord :=
  (r.withField Module.inProgressField (flagText true)).withField Module.startTimeField start

/-- The record with a change that started at an instant. -/
def inTransitionSince (r : ModuleRecord) (start : Time.DateTime) : ModuleRecord :=
  r.startedAt (Time.formatTimestamp start)

/-- The raw key of the record. -/
def rawKey (r : ModuleRecord) : String := Module.recordKey r.name

/-- A module that is shut down. -/
def adminDown (name : String) : ModuleRecord := (bare name).withStatus .down

/-- The greatest length of time that counts as an age, in nanoseconds.  A greater one counts as no
age at all. -/
def maxAge : Nat := 9223372036854775807000000

/-- The instant a length of time before another, which is itself where the earlier is out of
range. -/
def instantBefore (now : Time.DateTime) (age : Nat) : Time.DateTime :=
  if age ≤ maxAge then (Time.DateTime.ofUnixNanos? (now.unixNanos - age)).getD now else now

/-- A module with a change to a status that started some nanoseconds ago. -/
def inProgress (name : String) (target : AdminStatus) (now : Time.DateTime) (age : Nat) :
    ModuleRecord :=
  ((bare name).withStatus target).inTransitionSince (instantBefore now age)

/-- A start time that cannot be read. -/
def unreadableStart : String := "yesterday-ish"

/-- A module with a change to a status whose start time cannot be read. -/
def unreadable (name : String) (target : AdminStatus) : ModuleRecord :=
  ((bare name).withStatus target).startedAt unreadableStart

end ModuleRecord

/-- The row that binds an ASIC to a fabric card. -/
structure AsicRow where
  /-- The number of the ASIC. -/
  asic : Nat
  /-- The name of the card. -/
  card : String
  deriving DecidableEq, Repr

namespace AsicRow

/-- The raw key of the row. -/
def rawKey (r : AsicRow) : String := Fabric.rowRawKey r.asic

/-- The fields of the row. -/
def fields (r : AsicRow) : Fields := [(Fabric.nameField, r.card)]

end AsicRow

/-- The rows that bind ASICs to a card. -/
def asicRows (card : String) (asics : List Nat) : List AsicRow := asics.map fun a => ⟨a, card⟩

/-- The content of two databases. -/
structure Scenario where
  /-- The records of CONFIG_DB. -/
  modules : List ModuleRecord
  /-- The rows of CHASSIS_STATE_DB. -/
  asics : List AsicRow
  deriving DecidableEq, Repr

namespace Scenario

/-- Puts the records of modules into a database in memory. -/
def seedConfig (s : Scenario) (m : Store.Memory) : Store.Memory :=
  m.seed (s.modules.map fun r => (Module.table, r.name, r.fields))

/-- Puts the rows of ASICs into a database in memory. -/
def seedChassisState (s : Scenario) (m : Store.Memory) : Store.Memory :=
  m.seed (s.asics.map fun r => (Fabric.table, Fabric.rowKey r.asic, r.fields))

/-- Writes records of modules. -/
def writeModules : List ModuleRecord → Store.Client Unit
  | [] => return ()
  | r :: rs => do
      Store.setEntry Module.table r.name (some r.fields)
      writeModules rs

/-- Writes rows of ASICs. -/
def writeRows : List AsicRow → Store.Client Unit
  | [] => return ()
  | r :: rs => do
      Store.setEntry Fabric.table (Fabric.rowKey r.asic) (some r.fields)
      writeRows rs

/-- Writes a scenario, the records of modules first. -/
def write (s : Scenario) : Fabric.Step Unit := do
  Fabric.onConfig (writeModules s.modules)
  Fabric.onChassisState (writeRows s.asics)

/-- The raw keys of a scenario, in order. -/
def rawKeys (s : Scenario) : List String := s.modules.map (·.rawKey) ++ s.asics.map (·.rawKey)

end Scenario

end ChassisAdmin
