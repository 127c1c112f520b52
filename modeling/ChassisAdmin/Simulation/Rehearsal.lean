import ChassisAdmin.Chassis
import ChassisAdmin.Simulation.FlakyStore
import ChassisAdmin.Simulation.Services

/-!
# Rehearsing commands on modules

A rehearsal answers everything a command on modules asks for: two databases in
memory, a service manager that keeps a record and a time of its own.  Time
passes only in pauses.  Another program can be announced, which puts a record in
when its moment comes.  The reconciler can be made to look at a database other
than the one the guard writes, as when a replica lags behind.
-/

namespace ChassisAdmin.Simulation

/-- A record that another program will put in. -/
structure Announcement where
  /-- The moment, in nanoseconds of the rehearsal. -/
  moment : Nat
  /-- Whether it goes to CHASSIS_STATE_DB and not to CONFIG_DB. -/
  toChassisState : Bool
  /-- The table. -/
  table : String
  /-- The key. -/
  key : String
  /-- The fields. -/
  fields : Fields

/-- The surroundings of a command. -/
structure Rehearsal where
  /-- CONFIG_DB. -/
  config : FlakyStore
  /-- CONFIG_DB as the reconciler sees it, where that is another database. -/
  replica : Option FlakyStore
  /-- CHASSIS_STATE_DB. -/
  chassisState : FlakyStore
  /-- The service manager. -/
  services : Services
  /-- The time that has passed, in nanoseconds. -/
  time : Nat
  /-- The records still to come, in order of their moments. -/
  announced : List Announcement

namespace Rehearsal

/-- Two databases with a healthy service manager, and nothing announced. -/
def quiet (config chassisState : FlakyStore) : Rehearsal :=
  ⟨config, none, chassisState, ⟨[], [], []⟩, 0, []⟩

/-- Puts the record of an announcement in. -/
def enter (w : Rehearsal) (a : Announcement) : Rehearsal :=
  let put (s : FlakyStore) : FlakyStore := s.modify (·.insert a.table a.key a.fields)
  if a.toChassisState then { w with chassisState := put w.chassisState }
  else { w with config := put w.config }

/-- Puts in every announced record whose moment has come. -/
def settle (w : Rehearsal) : Rehearsal :=
  let due := w.announced.takeWhile (·.moment ≤ w.time)
  let later := w.announced.dropWhile (·.moment ≤ w.time)
  due.foldl enter { w with announced := later }

/-- Announces a record. -/
def announce (w : Rehearsal) (a : Announcement) : Rehearsal :=
  settle { w with announced :=
    w.announced.takeWhile (·.moment ≤ a.moment) ++ a ::
      w.announced.dropWhile (·.moment ≤ a.moment) }

/-- Lets time pass. -/
def wait (w : Rehearsal) (nanos : Nat) : Rehearsal := settle { w with time := w.time + nanos }

/-- Answers a call on CONFIG_DB. -/
def answerConfig (c : Store.Call) (w : Rehearsal) : Store.Answer c × Rehearsal :=
  let r := FlakyStore.answer c w.config
  (r.1, { w with config := r.2 })

/-- Answers a call on CONFIG_DB as the reconciler sees it. -/
def answerObserved (c : Store.Call) (w : Rehearsal) : Store.Answer c × Rehearsal :=
  match w.replica with
  | none => answerConfig c w
  | some s =>
      let r := FlakyStore.answer c s
      (r.1, { w with replica := some r.2 })

/-- Answers a call on CHASSIS_STATE_DB. -/
def answerChassisState (c : Store.Call) (w : Rehearsal) : Store.Answer c × Rehearsal :=
  let r := FlakyStore.answer c w.chassisState
  (r.1, { w with chassisState := r.2 })

/-- Answers a request. -/
def answer : (r : Fabric.Request) → Rehearsal → Fabric.Answer r × Rehearsal
  | .config c, w => answerConfig c w
  | .observed c, w => answerObserved c w
  | .chassisState c, w => answerChassisState c w
  | .service c, w =>
      let r := Services.answer c w.services
      (r.1, { w with services := r.2 })
  | .pause nanos, w => ((), w.wait nanos)

/-- Runs a command or a part of one. -/
def run {α : Type} (p : Fabric.Step α) (w : Rehearsal) : Except ChassisError α × Rehearsal :=
  Attempt.runWith answer p w

end Rehearsal

end ChassisAdmin.Simulation
