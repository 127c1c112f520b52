import ChassisAdmin.Proofs.Fabric.Plant

/-!
# After a failed command

A command on a fabric card may fail after the guard has granted it, with some
services stopped and some rows deleted.  The guard has written the status by
then, and services are reconciled only where it writes.  So the same command,
given again, finds the status there and does nothing at all.  Two things complete
the card.

* The second part of the command is run again on the report of the first.
* The other command is given and then the same one: the guard grants each, and
  each reconciles the ASICs that are bound by then.  On a smartswitch a change is
  under way after every command, so each must come after the one before has timed
  out.

`completes_after_failure` says so for every command that failed, and
`shutdown_not_completed` shows a card whose service stays stopped when a
shutdown is given again.
-/

namespace ChassisAdmin

open Store (Memory)
open ChassisAdmin.Module (recordIn)
open Fabric (Bound Leaves Plant Step reconciled)

/-- The status a module has when it does not have this one. -/
def AdminStatus.other : AdminStatus → AdminStatus
  | up => down
  | down => up

theorem AdminStatus.ne_other (s : AdminStatus) : s ≠ s.other := by
  cases s with
  | up => decide
  | down => decide

namespace Chassis

/-- A chassis whose reconciler reads the status through the guard of the chassis. -/
def equipped (platform : Platform) (guard : Guard) (pollTimeout : Nat) : Chassis :=
  ⟨platform, guard, some ⟨guard, pollTimeout⟩⟩

/-- A command on a fabric card, or the second part of one, reports on a granted request and on
these ASICs, and all their services run in the end. -/
def Completes (p : Step TransitionReport) (card : ModuleName) (target : AdminStatus)
    (asics : List Nat) (w w' : Plant) : Prop :=
  (∃ o, TransitionOutcome.isApplied o = true ∧
    w.run p = (.ok ⟨card, target, o, some (reconciled target asics)⟩, w')) ∧
  ∀ asic ∈ asics, Service.unitOfAsic asic ∈ w'.running

variable {platform : Platform} {pollTimeout : Nat} {g g' : Guard} {card : ModuleName}
  {target : AdminStatus} {w : Plant}

/-- A command for the status that is there already changes nothing. -/
theorem run_transition_of_same {c : Chassis}
    (hs : c.guard.adminStatusOf (recordIn w.config card.name) = target) :
    w.run (c.transition card target) =
      (.ok ⟨card, target, .alreadyInTargetState, none⟩, w) := by
  have hrequest := Plant.run_onConfig (onMemory_request (Guard.onMemory_of_same hs))
  rw [transition, Plant.run_bind hrequest]
  rfl

variable (platform pollTimeout) in
/-- The second part of a granted command is completed wherever the status has been written. -/
theorem exists_completes_reconcileFabric {o : TransitionOutcome} {asics : List Nat}
    (hcard : card.isFabricCard = true) (ho : o.isApplied = true)
    (hseen : g.adminStatusOf (recordIn w.config card.name) = target)
    (hb : Bound w.chassisState card.name asics) (hne : asics ≠ []) :
    ∃ w', Completes ((equipped platform g pollTimeout).reconcileFabric ⟨card, target, o, none⟩)
      card target asics w w' ∧ w'.config = w.config := by
  obtain ⟨w', hrun, hconfig, hrunning⟩ :=
    Plant.exists_run_reconcile (r := ⟨g, pollTimeout⟩) hseen hb hne
  refine ⟨w', ⟨⟨o, ho, ?_⟩, ?_⟩, hconfig⟩
  · rw [reconcileFabric, ho, hcard]
    exact Plant.run_bind hrun _
  · intro asic h
    exact hrunning _ (List.mem_map_of_mem h)

/-- After a command was granted, a command for another status is granted and completed, on a
smartswitch once the change has timed out. -/
theorem exists_completes {status : AdminStatus} {asics : List Nat}
    (hcard : card.isFabricCard = true)
    (hrecord : recordIn w.config card.name = g.grantedRecord status) (hstatus : status ≠ target)
    (hg : g'.smartswitch = g.smartswitch)
    (ht : g.smartswitch = true → g'.isAbandoned g.now.truncated = true)
    (hb : Bound w.chassisState card.name asics) (hne : asics ≠ []) :
    ∃ w', Completes ((equipped platform g' pollTimeout).transition card target) card target asics
      w w' ∧
      recordIn w'.config card.name = g'.grantedRecord target := by
  have hs : g'.adminStatusOf (recordIn w.config card.name) ≠ target := by
    rw [hrecord, Guard.adminStatusOf_grantedRecord hg]
    exact hstatus
  have htimed : g'.smartswitch = true → Guard.inProgressOf (recordIn w.config card.name) = true →
      g'.timedOutOf (recordIn w.config card.name) = true := by
    intro hg' _
    have hg₁ : g.smartswitch = true := hg ▸ hg'
    rw [hrecord, Guard.grantedRecord_of_smartswitch hg₁,
      Guard.timedOutOf_of_startTime g' _ (Guard.startTimeOf_startedRecord g status)]
    exact ht hg₁
  obtain ⟨o, m, hguard, ho, hm⟩ := Guard.exists_granted hs htimed
  have hrequest : w.run (Fabric.onConfig ((equipped platform g' pollTimeout).request card target)) =
      (.ok ⟨card, target, o, none⟩, { w with config := m }) :=
    Plant.run_onConfig (onMemory_request hguard)
  have hseen : g'.adminStatusOf (recordIn m card.name) = target := by
    rw [hm]
    exact Guard.adminStatusOf_grantedRecord rfl
  obtain ⟨w', ⟨⟨o', ho', hrun⟩, hrunning⟩, hconfig⟩ :=
    exists_completes_reconcileFabric (w := { w with config := m }) platform pollTimeout hcard ho
      hseen hb hne
  refine ⟨w', ⟨⟨o', ho', ?_⟩, hrunning⟩, ?_⟩
  · rw [transition, Plant.run_bind hrequest]
    exact hrun
  · rw [hconfig]
    exact hm

/-- After a command on a fabric card has failed, the same command changes nothing.  Its second part
alone is completed, and so is the other command and the same one after it, each on a smartswitch
once the change before has timed out. -/
theorem completes_after_failure {m m' : Memory} {e : ChassisError}
    (hcard : card.isFabricCard = true)
    (hfail : Leaves ((equipped platform g pollTimeout).transition card target).run m (.error e) m')
    (hw : w.config = m') (hg : g'.smartswitch = g.smartswitch) :
    w.run ((equipped platform g' pollTimeout).transition card target) =
      (.ok ⟨card, target, .alreadyInTargetState, none⟩, w) ∧
    ∀ asics, Bound w.chassisState card.name asics → asics ≠ [] →
      (∀ o, TransitionOutcome.isApplied o = true → ∃ w', Completes
        ((equipped platform g' pollTimeout).reconcileFabric ⟨card, target, o, none⟩)
        card target asics w w') ∧
      ((g.smartswitch = true → g'.isAbandoned g.now.truncated = true) → ∃ w', Completes
        ((equipped platform g' pollTimeout).transition card target.other)
        card target.other asics w w' ∧
        ∀ (w₁ : Plant) (g₁ : Guard) asics₁, w₁.config = w'.config →
          g₁.smartswitch = g.smartswitch → Bound w₁.chassisState card.name asics₁ → asics₁ ≠ [] →
          (g.smartswitch = true → g₁.isAbandoned g'.now.truncated = true) → ∃ w₂, Completes
            ((equipped platform g₁ pollTimeout).transition card target)
            card target asics₁ w₁ w₂) := by
  subst hw
  have hrecord : recordIn w.config card.name = g.grantedRecord target :=
    granted_of_leaves_error hfail
  have hseen : g'.adminStatusOf (recordIn w.config card.name) = target := by
    rw [hrecord, Guard.adminStatusOf_grantedRecord hg]
  refine ⟨run_transition_of_same hseen, ?_⟩
  intro asics hb hne
  constructor
  · intro o ho
    obtain ⟨w', hw', -⟩ := exists_completes_reconcileFabric platform pollTimeout hcard ho hseen hb hne
    exact ⟨w', hw'⟩
  · intro ht
    obtain ⟨w', hw', hrecord'⟩ := exists_completes hcard hrecord target.ne_other hg ht hb hne
    refine ⟨w', hw', ?_⟩
    intro w₁ g₁ asics₁ hw₁ hg₁ hb₁ hne₁ ht₁
    rw [← hw₁] at hrecord'
    have hother : target.other ≠ target := target.ne_other.symm
    obtain ⟨w₂, hw₂, -⟩ := exists_completes hcard hrecord' hother (hg₁.trans hg.symm)
      (fun h => ht₁ (hg ▸ h)) hb₁ hne₁
    exact ⟨w₂, hw₂⟩

/-! ## A card that is left stopped -/

/-- A fabric card. -/
def card0 : ModuleName := ⟨"FABRIC-CARD0", .fabricCard, by decide⟩

/-- A standard chassis whose fabric card has one ASIC, the service of which runs. -/
def oneBound : Plant where
  config := Memory.empty
  chassisState := Memory.empty.seed
    [(Fabric.table, Fabric.rowKey 0, [(Fabric.nameField, "FABRIC-CARD0")])]
  running := [Service.unitOfAsic 0]

/-- What is left of it when no row could be deleted: the status is written and the service is
stopped. -/
def leftStopped : Plant where
  config := Module.withRecord Memory.empty "FABRIC-CARD0" (Guard.plainRecord .down)
  chassisState := oneBound.chassisState
  running := []

/-- The commands on that chassis. -/
def standardNow : Chassis :=
  equipped .standard ⟨false, Time.DateTime.ofUnix 0⟩ Fabric.pollTimeout

/-- The reconciler of that chassis. -/
def standardReconciler : Fabric.Reconciler := ⟨standardNow.guard, Fabric.pollTimeout⟩

/-- Carries out every request but the deletion of rows. -/
def answerButDeletions : (r : Fabric.Request) → Plant → Fabric.Answer r × Plant
  | .chassisState (.delete _), w => (.error (.database "del" "refused"), w)
  | r, w => Plant.answer r w

/-- What a shutdown fails with there. -/
def refusedDeletion : ChassisError := .system (.database "del" "refused")

theorem runWith_shutdown_oneBound :
    (standardNow.shutdown card0).runWith answerButDeletions oneBound =
      (.error refusedDeletion, leftStopped) := by
  let w : Plant := { leftStopped with running := oneBound.running }
  have hrequest : Attempt.runWith answerButDeletions
      (Fabric.onConfig (standardNow.request card0 .down)) oneBound =
        (.ok ⟨card0, .down, .applied, none⟩, w) := rfl
  have hread : Attempt.runWith answerButDeletions
      (Fabric.onObserved (standardNow.guard.currentAdminStatus card0.name)) w =
        (.ok .down, w) := rfl
  have hawait : Attempt.runWith answerButDeletions
      (Fabric.awaitStatus ⟨standardNow.guard, Fabric.pollTimeout⟩ card0.name .down 0) w =
        (.ok false, w) := by
    rw [Fabric.awaitStatus, Attempt.runWith_bind_ok hread]
    rfl
  have hreconcile : Attempt.runWith answerButDeletions
      (Fabric.reconcile ⟨standardNow.guard, Fabric.pollTimeout⟩ card0 .down) w =
        (.error refusedDeletion, leftStopped) := by
    rw [Fabric.reconcile_eq, Attempt.runWith_bind_ok hawait]
    rfl
  rw [shutdown, transition, Attempt.runWith_bind_ok hrequest]
  exact Attempt.runWith_bind_error hreconcile _

theorem bound_leftStopped : Bound leftStopped.chassisState card0.name [0] := by
  unfold Bound
  rfl

/-- The ASIC is still bound to the card when the shutdown is given again, and the shutdown reports
on no ASIC and leaves the service stopped. -/
theorem shutdown_not_completed :
    (standardNow.shutdown card0).runWith answerButDeletions oneBound =
      (.error refusedDeletion, leftStopped) ∧
    Bound leftStopped.chassisState card0.name [0] ∧
    leftStopped.run (standardNow.shutdown card0) =
      (.ok ⟨card0, .down, .alreadyInTargetState, none⟩, leftStopped) ∧
    ¬∃ report w', leftStopped.run (standardNow.shutdown card0) = (.ok report, w') ∧
      report.fabric = some (.restarted [0]) := by
  have hrecord : recordIn leftStopped.config card0.name = Guard.plainRecord .down :=
    Memory.entry_put_self _ _ _ _
  have hagain : leftStopped.run (standardNow.shutdown card0) =
      (.ok ⟨card0, .down, .alreadyInTargetState, none⟩, leftStopped) := by
    apply run_transition_of_same
    rw [hrecord]
    rfl
  refine ⟨runWith_shutdown_oneBound, bound_leftStopped, hagain, ?_⟩
  rintro ⟨report, w', hrun, hfabric⟩
  have hreport := Except.ok.inj (congrArg Prod.fst (hagain.symm.trans hrun))
  rw [← hreport] at hfabric
  cases hfabric

theorem config_answerButDeletions {q : Fabric.Request} (hq : q.SparesConfig) (w : Plant) :
    (answerButDeletions q w).2.config = w.config := by
  cases q with
  | config c => exact hq.elim
  | observed c => rfl
  | chassisState c =>
    cases c with
    | getEntry | setEntry | keys | hget | delete => rfl
  | service c =>
    cases c with
    | start | stop | resetFailed | isActive => rfl
  | pause time => rfl

theorem leaves_shutdown_oneBound :
    Leaves (standardNow.shutdown card0).run Memory.empty (.error refusedDeletion)
      leftStopped.config := by
  have h := Fabric.leaves_run Plant.config answerButDeletions (fun _ _ => ⟨rfl, rfl⟩)
    (fun _ w hq => config_answerButDeletions hq w) (standardNow.shutdown card0).run oneBound
  rw [show Program.run _ _ _ = _ from runWith_shutdown_oneBound] at h
  exact h

theorem completes_after_failure_leftStopped :
    leftStopped.run (standardNow.shutdown card0) =
        (.ok ⟨card0, .down, .alreadyInTargetState, none⟩, leftStopped) ∧
      ∃ w', Completes (standardNow.startup card0) card0 .up [0] leftStopped w' := by
  have hguard : standardNow.guard.smartswitch = standardNow.guard.smartswitch := rfl
  obtain ⟨hsame, hother⟩ := completes_after_failure (w := leftStopped) rfl
    leaves_shutdown_oneBound rfl hguard
  obtain ⟨-, hup⟩ := hother [0] bound_leftStopped (List.cons_ne_nil 0 [])
  obtain ⟨w', hw', -⟩ := hup fun h => nomatch h
  exact ⟨hsame, w', hw'⟩

end Chassis

end ChassisAdmin
