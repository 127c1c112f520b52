import ChassisAdmin.Proofs.Guard.Request

/-!
# Granted requests

On a database that answers every call a request has one end.  A module that has
the status already is left alone (`onMemory_of_same`).  Otherwise the request is
granted unless a change is under way that has not been abandoned
(`exists_granted`), and then the record of the module is `grantedRecord`.
-/

namespace ChassisAdmin.Guard

open Store (Memory Call)
open ChassisAdmin.Module (recordIn withRecord)

variable {g g' : Guard} {module : ModuleName} {target : AdminStatus} {m : Memory}

/-- The record of a module after a request for it is granted. -/
def grantedRecord (g : Guard) (target : AdminStatus) : Option Fields :=
  if g.smartswitch then some (g.startedRecord target) else plainRecord target

theorem grantedRecord_of_smartswitch (hg : g.smartswitch = true) :
    g.grantedRecord target = some (g.startedRecord target) := if_pos hg

theorem grantedRecord_of_standard (hg : g.smartswitch = false) :
    g.grantedRecord target = plainRecord target := by
  rw [grantedRecord, hg]
  rfl

theorem plainRecord_bind_nonempty (target : AdminStatus) :
    (plainRecord target).bind Memory.nonempty = plainRecord target := by
  cases target with
  | up => rfl
  | down => rfl

/-- A guard of the same platform reads the status that was granted. -/
theorem adminStatusOf_grantedRecord (h : g'.smartswitch = g.smartswitch) :
    g'.adminStatusOf (g.grantedRecord target) = target := by
  cases hg : g.smartswitch with
  | false =>
    rw [grantedRecord_of_standard hg, ← plainRecord_bind_nonempty]
    exact adminStatusOf_plainRecord g' target (h.trans hg)
  | true =>
    rw [grantedRecord_of_smartswitch hg]
    exact adminStatusOf_startedRecord g' g target

theorem Requested.record_of_isApplied {mayFail : Call → Prop} {name : String}
    {o : TransitionOutcome} {m' : Memory} (h : Requested mayFail g name target m (.ok o) m')
    (ho : o.isApplied = true) : recordIn m' name = g.grantedRecord target := by
  cases h with
  | same | rejected => cases ho
  | plain _ hg =>
    rw [grantedRecord_of_standard hg]
    exact (Memory.entry_put_self _ _ _ _).trans (plainRecord_bind_nonempty target)
  | started _ hg | reclaimed _ hg =>
    rw [grantedRecord_of_smartswitch hg]
    exact Memory.entry_put_self _ _ _ _

/-- Unless another change was under way, the module has the status that was asked for. -/
theorem Requested.adminStatusOf {mayFail : Call → Prop} {name : String} {o : TransitionOutcome}
    {m' : Memory} (h : Requested mayFail g name target m (.ok o) m')
    (ho : o ≠ .rejectedDuplicateInProgress) : g.adminStatusOf (recordIn m' name) = target := by
  cases hr : o.isApplied with
  | true =>
    rw [h.record_of_isApplied hr]
    exact adminStatusOf_grantedRecord rfl
  | false =>
    cases h with
    | same hs => exact hs
    | rejected => exact absurd rfl ho
    | plain | started | reclaimed => cases hr

theorem Requested.eq_of_not_isApplied {mayFail : Call → Prop} {name : String}
    {o : TransitionOutcome} {m' : Memory} (h : Requested mayFail g name target m (.ok o) m')
    (ho : o.isApplied = false) : m' = m := by
  cases h with
  | same | rejected => rfl
  | plain | started | reclaimed => cases ho

/-! ## Databases that answer every call -/

/-- A request ends, and it ends in one of the ways in which no call fails. -/
theorem exists_requested_onMemory (g : Guard) (module : ModuleName) (target : AdminStatus)
    (m : Memory) : ∃ o m', (g.requestTransition module target).onMemory m = (.ok o, m') ∧
      Requested (fun _ => False) g module.name target m (.ok o) m' := by
  have h := requested_of_ends
    (Store.Client.ends_onMemory (fun _ => False) (g.requestTransition module target) m)
  generalize (g.requestTransition module target).onMemory m = r at h
  obtain ⟨r, m'⟩ := r
  cases r with
  | ok o => exact ⟨o, m', rfl, h⟩
  | error e =>
    cases h with
    | failed _ hf => exact hf.choose_spec.elim
    | halfway _ hf => exact hf.choose_spec.elim

/-- A module that has the status already is left alone. -/
theorem onMemory_of_same (hs : g.adminStatusOf (recordIn m module.name) = target) :
    (g.requestTransition module target).onMemory m = (.ok .alreadyInTargetState, m) := by
  obtain ⟨o, m', hr, h⟩ := exists_requested_onMemory g module target m
  rw [hr]
  cases h with
  | same => rfl
  | plain hs' | started hs' | rejected hs' | reclaimed hs' => exact absurd hs hs'

/-- On a standard chassis a request for another status is granted. -/
theorem onMemory_of_standard (hg : g.smartswitch = false)
    (hs : g.adminStatusOf (recordIn m module.name) ≠ target) :
    (g.requestTransition module target).onMemory m =
      (.ok .applied, withRecord m module.name (plainRecord target)) := by
  obtain ⟨o, m', hr, h⟩ := exists_requested_onMemory g module target m
  rw [hr]
  cases h with
  | same hs' => exact absurd hs' hs
  | plain => rfl
  | started _ hg' | rejected _ hg' | reclaimed _ hg' => exact absurd (hg.symm.trans hg') (by decide)

/-- A request for another status is granted unless a change is under way that has not been
abandoned. -/
theorem exists_granted (hs : g.adminStatusOf (recordIn m module.name) ≠ target)
    (ht : g.smartswitch = true → inProgressOf (recordIn m module.name) = true →
      g.timedOutOf (recordIn m module.name) = true) :
    ∃ o m', (g.requestTransition module target).onMemory m = (.ok o, m') ∧ o.isApplied = true ∧
      recordIn m' module.name = g.grantedRecord target := by
  obtain ⟨o, m', hr, h⟩ := exists_requested_onMemory g module target m
  have ho : o.isApplied = true := by
    cases h with
    | same hs' => exact absurd hs' hs
    | rejected _ hg hp ht' => exact absurd ((ht hg hp).symm.trans ht') (by decide)
    | plain | started | reclaimed => rfl
  exact ⟨o, m', hr, ho, h.record_of_isApplied ho⟩

end ChassisAdmin.Guard
