import ChassisAdmin.Proofs.Fabric.Binding
import ChassisAdmin.Proofs.Fabric.Leaves

/-!
# A chassis in good order

A `Plant` is what a command on modules works on where nothing goes wrong: two
databases in memory and the units that run.  Every call is carried out.  A unit
that is stopped runs no more, and a unit that is started runs.

`exists_run_reconcile` says what reconciling comes to on a plant where the card
has its status already: it finds the ASICs bound to the card, and if there are
any, all their services run in the end.  The parts are `run_startAll`,
`run_stopAll` and so on, one for each part of the program.
-/

namespace ChassisAdmin.Fabric

open Store (Memory)
open ChassisAdmin.Module (recordIn)

/-- What commands on modules work on. -/
structure Plant where
  /-- CONFIG_DB. -/
  config : Memory
  /-- CHASSIS_STATE_DB. -/
  chassisState : Memory
  /-- The units that run. -/
  running : List String

namespace Plant

variable {α β : Type}

/-- The plant after units are started. -/
def started (w : Plant) (units : List String) : Plant :=
  { w with running := units.reverse ++ w.running }

/-- The plant after units are stopped. -/
def stopped (w : Plant) (units : List String) : Plant :=
  { w with running := w.running.filter (· ∉ units) }

/-- Carries out a call on the service manager. -/
def serve : (c : Service.Call) → Plant → Service.Answer c × Plant
  | .start unit, w => (.ok (), w.started [unit])
  | .stop unit, w => (.ok (), w.stopped [unit])
  | .resetFailed _, w => (.ok (), w)
  | .isActive unit, w => (.ok (w.running.contains unit), w)

/-- Carries out a request.  The reconciler sees CONFIG_DB as it is. -/
def answer : (r : Request) → Plant → Answer r × Plant
  | .config c, w => ((Memory.answer c w.config).1, { w with config := (Memory.answer c w.config).2 })
  | .observed c, w => ((Memory.answer c w.config).1, w)
  | .chassisState c, w =>
      ((Memory.answer c w.chassisState).1,
        { w with chassisState := (Memory.answer c w.chassisState).2 })
  | .service c, w => serve c w
  | .pause _, w => ((), w)

/-- Runs a command or a part of one. -/
def run (w : Plant) (p : Step α) : Except ChassisError α × Plant := Attempt.runWith answer p w

variable {w w' : Plant} {a : α}

theorem run_bind {p : Step α} (h : w.run p = (.ok a, w')) (f : α → Step β) :
    w.run (p >>= f) = w'.run (f a) := Attempt.runWith_bind_ok h f

/-! ## Databases -/

section Databases

variable {p : Store.Client α} {m : Memory}

theorem run_onConfig (h : p.onMemory w.config = (.ok a, m)) :
    w.run (onConfig p) = (.ok a, { w with config := m }) := by
  refine Attempt.runWith_mapError_ok ?_ _
  exact Attempt.runWith_interpret_part Plant.config (fun w m => { w with config := m })
    (fun _ => rfl) (fun _ _ => rfl) (fun _ _ _ => rfl) (fun _ _ => rfl) h

theorem run_onChassisState (h : p.onMemory w.chassisState = (.ok a, m)) :
    w.run (onChassisState p) = (.ok a, { w with chassisState := m }) := by
  refine Attempt.runWith_mapError_ok ?_ _
  exact Attempt.runWith_interpret_part Plant.chassisState (fun w m => { w with chassisState := m })
    (fun _ => rfl) (fun _ _ => rfl) (fun _ _ _ => rfl) (fun _ _ => rfl) h

end Databases

/-! ## Services -/

theorem started_started (w : Plant) (units units' : List String) :
    (w.started units).started units' = w.started (units ++ units') := by
  simp only [started, List.reverse_append, List.append_assoc]

theorem stopped_nil (w : Plant) : w.stopped [] = w := by
  have h : w.running.filter (· ∉ ([] : List String)) = w.running :=
    List.filter_eq_self.2 fun _ _ => by simp
  rw [stopped, h]

theorem stopped_stopped (w : Plant) (units units' : List String) :
    (w.stopped units).stopped units' = w.stopped (units ++ units') := by
  simp only [stopped, List.filter_filter, List.mem_append, not_or, Bool.decide_and, Bool.and_comm]

theorem mem_running_started {units : List String} {unit : String} (h : unit ∈ units) (w : Plant) :
    unit ∈ (w.started units).running :=
  List.mem_append_left _ (List.mem_reverse.2 h)

theorem not_mem_running_stopped {units : List String} {unit : String} (h : unit ∈ units)
    (w : Plant) : unit ∉ (w.stopped units).running := by
  intro hrun
  have := (List.mem_filter.1 hrun).2
  exact of_decide_eq_true this h

/-- The units of ASICs. -/
def units (asics : List Nat) : List String := asics.map Service.unitOfAsic

theorem run_startAll (asics : List Nat) (w : Plant) :
    w.run (startAll asics) = (.ok (), w.started (units asics)) := by
  induction asics generalizing w with
  | nil => rfl
  | cons asic asics ih =>
    have hstart : w.run (onService (.start (Service.unitOfAsic asic))) =
        (.ok (), w.started [Service.unitOfAsic asic]) := rfl
    rw [startAll, run_bind hstart, ih, started_started]
    rfl

theorem run_restartAll (asics : List Nat) (w : Plant) :
    w.run (restartAll asics) = (.ok (), w.started (units asics)) := by
  induction asics generalizing w with
  | nil => rfl
  | cons asic asics ih =>
    have hreset : w.run (onService (.resetFailed (Service.unitOfAsic asic))) = (.ok (), w) := rfl
    have hstart : w.run (onService (.start (Service.unitOfAsic asic))) =
        (.ok (), w.started [Service.unitOfAsic asic]) := rfl
    rw [restartAll, run_bind hreset, run_bind hstart, ih, started_started]
    rfl

theorem run_stopAll (asics : List Nat) (w : Plant) :
    w.run (stopAll asics) = (.ok (), w.stopped (units asics)) := by
  induction asics generalizing w with
  | nil =>
    rw [units, List.map_nil, stopped_nil]
    rfl
  | cons asic asics ih =>
    have hstop : w.run (onService (.stop (Service.unitOfAsic asic))) =
        (.ok (), w.stopped [Service.unitOfAsic asic]) := rfl
    rw [stopAll, run_bind hstop, ih, stopped_stopped]
    rfl

/-- A unit that was stopped is not found running. -/
theorem run_checkStopped (card : String) (asics : List Nat) (w : Plant) :
    (w.stopped (units asics)).run (checkStopped card asics) =
      (.ok (), w.stopped (units asics)) := by
  unfold checkStopped
  split
  · rfl
  · next last hlast =>
    have hmem : Service.unitOfAsic last ∈ units asics :=
      List.mem_map_of_mem (List.mem_of_getLast? hlast)
    have hactive : (w.stopped (units asics)).run (onService (.isActive (Service.unitOfAsic last))) =
        (.ok false, w.stopped (units asics)) := by
      change (Except.ok (List.contains _ _), _) = _
      rw [List.contains_eq_mem, decide_eq_false (not_mem_running_stopped hmem w)]
      rfl
    rw [run_bind hactive]
    rfl

theorem exists_run_deleteRows (asics : List Nat) (w : Plant) :
    ∃ m, w.run (deleteRows asics) = (.ok (), { w with chassisState := m }) := by
  induction asics generalizing w with
  | nil => exact ⟨w.chassisState, rfl⟩
  | cons asic asics ih =>
    have hdelete : w.run (onChassisState (Store.delete (rowRawKey asic))) = _ :=
      run_onChassisState rfl
    obtain ⟨m, hm⟩ := ih { w with chassisState := _ }
    exact ⟨m, (run_bind hdelete _).trans hm⟩

end Plant

/-! ## Reconciling -/

namespace Plant

variable {w : Plant} {card : String} {target : AdminStatus} {asics : List Nat}

/-- The status is seen at once where the record tells of it. -/
theorem run_awaitStatus {r : Reconciler}
    (h : r.guard.adminStatusOf (recordIn w.config card) = target) (elapsed : Nat) :
    w.run (awaitStatus r card target elapsed) = (.ok false, w) := by
  subst h
  exact runWith_awaitStatus rfl elapsed

/-- Where ASICs are bound to a card, their services all run in the end. -/
theorem exists_run_settle (hb : Bound w.chassisState card asics) (hne : asics ≠ [])
    (target : AdminStatus) :
    ∃ w', w.run (settle card target) = (.ok (reconciled target asics), w') ∧
      w'.config = w.config ∧ ∀ unit ∈ units asics, unit ∈ w'.running := by
  have hbind : w.run (onChassisState (binding card)) = (.ok asics, w) := run_onChassisState hb
  have hempty : asics.isEmpty ≠ true := fun h => hne (List.isEmpty_iff.1 h)
  cases target with
  | up =>
    refine ⟨w.started (units asics), ?_, rfl, fun unit h => mem_running_started h w⟩
    rw [settle, run_bind hbind, if_neg hempty, run_bind (run_startAll asics w)]
    rfl
  | down =>
    obtain ⟨m, hdelete⟩ := exists_run_deleteRows asics (w.stopped (units asics))
    let w₁ : Plant := { w.stopped (units asics) with chassisState := m }
    refine ⟨w₁.started (units asics), ?_, rfl, fun unit h => mem_running_started h w₁⟩
    rw [settle, run_bind hbind, if_neg hempty]
    refine (run_bind (run_stopAll asics w) _).trans ?_
    refine (run_bind (run_checkStopped card asics w) _).trans ?_
    refine (run_bind hdelete _).trans ?_
    exact (run_bind (run_restartAll asics w₁) _).trans rfl

theorem exists_run_reconcile {r : Reconciler} {module : ModuleName}
    (h : r.guard.adminStatusOf (recordIn w.config module.name) = target)
    (hb : Bound w.chassisState module.name asics) (hne : asics ≠ []) :
    ∃ w', w.run (reconcile r module target) = (.ok (reconciled target asics), w') ∧
      w'.config = w.config ∧ ∀ unit ∈ units asics, unit ∈ w'.running := by
  obtain ⟨w', hrun, hw⟩ := exists_run_settle hb hne target
  refine ⟨w', ?_, hw⟩
  rw [reconcile_eq, run_bind (run_awaitStatus h 0)]
  exact hrun

end Plant

end ChassisAdmin.Fabric
