import ChassisAdmin.Guard
import ChassisAdmin.Service
import ChassisAdmin.Text.DecimalDigit

/-!
# Reconciling the services of a fabric card

A fabric card carries switching chips (ASICs), each driven by a service.  After
the guard has written a new status for a fabric card, its services are brought
in line with it.

1. The status is read until it is the expected one, once a second.  When the
   time allowed is over, the reconciliation fails.  It is looked at before every
   pause and not once more at the end.
2. The ASICs of the card are looked up in CHASSIS_STATE_DB.  They are the
   numbers at the end of the keys of the rows that name the card.
3. For `up` their services are started.  For `down` they are stopped, the last
   one is asked whether it still runs, the rows are deleted, and every service
   is started again after its failures were cleared.  So a card that was never
   pulled out comes back on its own.

Everything goes in ascending order of the ASICs and ends at the first failure.
-/

namespace ChassisAdmin.Fabric

/-- The nanoseconds of a length of time in seconds. -/
def seconds (n : Nat) : Nat := n * Time.nanosPerSecond

/-- The time allowed for a status to be seen, in nanoseconds. -/
def pollTimeout : Nat := seconds 10

/-- The pause between two readings of the status, in nanoseconds. -/
def pollInterval : Nat := seconds 1

theorem pollInterval_pos : 0 < pollInterval := by decide

/-! ## Rows that bind an ASIC to a card -/

/-- The table of CHASSIS_STATE_DB that binds ASICs to fabric cards. -/
def table : String := "CHASSIS_FABRIC_ASIC_TABLE"

/-- The field of a row with the name of the card. -/
def nameField : String := "name"

/-- The key of the row of an ASIC. -/
def rowKey (asic : Nat) : String := "asic" ++ Text.decimal asic

/-- The raw key of the row of an ASIC. -/
def rowRawKey (asic : Nat) : String := Store.rawKey table (rowKey asic)

/-- The greatest number an ASIC can have. -/
def maxAsic : Nat := 4294967295

/-- The number of the ASIC at the end of a raw key.  The digits of every script belong to the end
of the key, but only ASCII digits are read as a number. -/
def asicOfKey? (key : String) : Option Nat :=
  (Text.natOfDigits (Text.trailingRun Text.isDecimalDigit key.toList)).filter (· ≤ maxAsic)

/-- Puts a number into its place in an ascending list without repetition. -/
def insertAsic (n : Nat) : List Nat → List Nat
  | [] => [n]
  | m :: l => if n < m then n :: m :: l else if n = m then m :: l else m :: insertAsic n l

/-- The ASICs of a card among the rows under some raw keys, added to those found before. -/
def collect (card : String) : List String → List Nat → Store.Client (List Nat)
  | [], found => return found
  | key :: keys, found => do
      let name ← Store.hget key nameField
      if name = some card then
        match asicOfKey? key with
        | some asic => collect card keys (insertAsic asic found)
        | none => collect card keys found
      else
        collect card keys found

/-- The ASICs of a card, ascending. -/
def binding (card : String) : Store.Client (List Nat) := do
  let keys ← Store.keys (table ++ "*")
  collect card keys []

/-! ## What commands on modules ask for -/

/-- A request of a command on modules. -/
inductive Request where
  /-- A call on CONFIG_DB. -/
  | config (call : Store.Call)
  /-- A call on CONFIG_DB as the reconciler sees it, where it waits for the status to arrive. -/
  | observed (call : Store.Call)
  /-- A call on CHASSIS_STATE_DB. -/
  | chassisState (call : Store.Call)
  /-- A call on the service manager. -/
  | service (call : Service.Call)
  /-- A pause of so many nanoseconds. -/
  | pause (time : Nat)
  deriving DecidableEq, Repr

/-- The answer to a request. -/
abbrev Answer : Request → Type
  | .config c => Store.Answer c
  | .observed c => Store.Answer c
  | .chassisState c => Store.Answer c
  | .service c => Service.Answer c
  | .pause _ => Unit

/-- A part of a command on modules. -/
abbrev Step (α : Type) : Type := Attempt Request Answer ChassisError α

/-- The program of one request. -/
def ask (r : Request) : Program Request Answer (Answer r) := Program.request r

/-- Runs a program on CONFIG_DB. -/
def onConfig {α : Type} (p : Store.Client α) : Step α :=
  (p.interpret fun c => ask (.config c)).mapError .system

/-- Runs a program on CONFIG_DB as the reconciler sees it. -/
def onObserved {α : Type} (p : Store.Client α) : Step α :=
  (p.interpret fun c => ask (.observed c)).mapError .system

/-- Runs a program on CHASSIS_STATE_DB. -/
def onChassisState {α : Type} (p : Store.Client α) : Step α :=
  (p.interpret fun c => ask (.chassisState c)).mapError .system

/-- Calls the service manager. -/
def onService (c : Service.Call) : Step c.Value :=
  Attempt.request (.service c) fun r => r.mapError .system

/-- Pauses for so many nanoseconds. -/
def pause (time : Nat) : Step Unit := Attempt.request (.pause time) fun _ => .ok ()

/-! ## Reconciling -/

/-- What a reconciliation did. -/
inductive Outcome where
  /-- No ASIC is bound to the card. -/
  | noAsics
  /-- The services of these ASICs were started. -/
  | started (asics : List Nat)
  /-- The services of these ASICs were stopped, their rows deleted and the services started. -/
  | restarted (asics : List Nat)
  deriving DecidableEq, Repr

/-- Brings services in line with the status of a fabric card. -/
structure Reconciler where
  /-- The guard that reads the status. -/
  guard : Guard
  /-- The time allowed for the status to be seen, in nanoseconds. -/
  pollTimeout : Nat

/-- Reads the status of a module until it is the expected one or the time is over, and says
whether the time is over. -/
def awaitStatus (r : Reconciler) (name : String) (expected : AdminStatus) (elapsed : Nat) :
    Step Bool := do
  let status ← onObserved (r.guard.currentAdminStatus name)
  if status = expected then
    return false
  else
    pause pollInterval
    if _h : r.pollTimeout ≤ elapsed + pollInterval then
      return true
    else
      awaitStatus r name expected (elapsed + pollInterval)
termination_by r.pollTimeout - elapsed
decreasing_by
  have := pollInterval_pos
  omega

/-- Starts the services of ASICs. -/
def startAll : List Nat → Step Unit
  | [] => return ()
  | asic :: asics => do
      onService (.start (Service.unitOfAsic asic))
      startAll asics

/-- Stops the services of ASICs. -/
def stopAll : List Nat → Step Unit
  | [] => return ()
  | asic :: asics => do
      onService (.stop (Service.unitOfAsic asic))
      stopAll asics

/-- Fails if the service of the last ASIC still runs. -/
def checkStopped (card : String) (asics : List Nat) : Step Unit :=
  match asics.getLast? with
  | none => return ()
  | some last => do
      let unit := Service.unitOfAsic last
      if ← onService (.isActive unit) then
        throw (.serviceStopFailed card unit)

/-- Deletes the rows of ASICs. -/
def deleteRows : List Nat → Step Unit
  | [] => return ()
  | asic :: asics => do
      onChassisState (Store.delete (rowRawKey asic))
      deleteRows asics

/-- Starts the services of ASICs after clearing the failures on record for them. -/
def restartAll : List Nat → Step Unit
  | [] => return ()
  | asic :: asics => do
      onService (.resetFailed (Service.unitOfAsic asic))
      onService (.start (Service.unitOfAsic asic))
      restartAll asics

/-- Brings the services of a card in line with its new status. -/
def reconcile (r : Reconciler) (module : ModuleName) (target : AdminStatus) : Step Outcome := do
  let card := module.name
  if ← awaitStatus r card target 0 then
    throw (.pollTimeout card target r.pollTimeout)
  let asics ← onChassisState (binding card)
  if asics.isEmpty then
    return .noAsics
  match target with
  | .up =>
      startAll asics
      return .started asics
  | .down =>
      stopAll asics
      checkStopped card asics
      deleteRows asics
      restartAll asics
      return .restarted asics

example : asicOfKey? "CHASSIS_FABRIC_ASIC_TABLE|asic012" = some 12 := by decide

example : asicOfKey? "asic4294967296" = none ∧ asicOfKey? "asic٣" = none ∧
    asicOfKey? "asic" = none := by decide

end ChassisAdmin.Fabric
