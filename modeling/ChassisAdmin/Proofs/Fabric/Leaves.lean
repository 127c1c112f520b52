import ChassisAdmin.Chassis
import ChassisAdmin.Proofs.Fabric.Plan
import ChassisAdmin.Proofs.Guard.Granted

/-!
# What a command leaves in CONFIG_DB

A command on modules writes CONFIG_DB through the guard, and after that it only
waits, works on CHASSIS_STATE_DB and calls services.  `Leaves` runs a command
where CONFIG_DB answers and nothing is known of the rest: a service may refuse a
call or run on after it was stopped, a call on CHASSIS_STATE_DB may fail, and the
status may never be seen.

`asks_reconcile` says that reconciling makes no request of CONFIG_DB, so it
leaves it as it is.  Hence a command that fails has been granted by the guard
(`granted_of_leaves_error`): the record of the module is the one that the guard
wrote.
-/

namespace ChassisAdmin

open Store (Memory)
open ChassisAdmin.Module (recordIn)

namespace Fabric

variable {α β : Type}

/-! ## Requests of CONFIG_DB -/

/-- The request is none of CONFIG_DB. -/
def Request.SparesConfig : Request → Prop
  | config _ => False
  | observed _ | chassisState _ | service _ | pause _ => True

/-- Reconciling makes no request of CONFIG_DB. -/
theorem asks_reconcile (r : Reconciler) (module : ModuleName) (target : AdminStatus) :
    (reconcile r module target).Asks Request.SparesConfig := by
  rw [reconcile_eq_lookUp_bind]
  refine Attempt.asks_bind ?_ ?_
  · exact asks_lookUp (fun _ _ => trivial) (fun _ => trivial) (fun _ _ => trivial) r module target
  · refine fun asics => asks_carryOut (fun task _ => ?_) module.name
    cases task with
    | stop | check | deleteRow | resetFailed | start => trivial

/-! ## CONFIG_DB after a program -/

/-- A program, run where CONFIG_DB answers and other requests get any answers, can end with a value
and leaves CONFIG_DB in a state. -/
inductive Leaves : Program Request Answer α → Memory → α → Memory → Prop where
  | done (a : α) (m : Memory) : Leaves (.done a) m a m
  | config {c : Store.Call} {k : Answer (.config c) → Program Request Answer α} {m m' : Memory}
      {a : α} (h : Leaves (k (Memory.answer c m).1) (Memory.answer c m).2 a m') :
      Leaves (.ask (.config c) k) m a m'
  | other {q : Request} {k : Answer q → Program Request Answer α} {m m' : Memory} {a : α}
      (hq : q.SparesConfig) (r : Answer q) (h : Leaves (k r) m a m') : Leaves (.ask q k) m a m'

theorem exists_leaves_of_bind {p : Program Request Answer α} {f : α → Program Request Answer β}
    {m m' : Memory} {b : β} (h : Leaves (p.bind f) m b m') :
    ∃ a m₁, Leaves p m a m₁ ∧ Leaves (f a) m₁ b m' := by
  induction p generalizing m with
  | done a => exact ⟨a, m, .done a m, h⟩
  | ask q k ih =>
    cases h with
    | config h =>
      obtain ⟨a, m₁, hp, hf⟩ := ih _ h
      exact ⟨a, m₁, .config hp, hf⟩
    | other hq r h =>
      obtain ⟨a, m₁, hp, hf⟩ := ih _ h
      exact ⟨a, m₁, .other hq r hp, hf⟩

/-- A program that makes no request of CONFIG_DB leaves it as it is. -/
theorem eq_of_leaves {p : Program Request Answer α} (hp : p.Asks Request.SparesConfig)
    {m m' : Memory} {a : α} (h : Leaves p m a m') : m' = m := by
  induction h with
  | done a m => rfl
  | config _ _ => exact hp.1.elim
  | other _ r _ ih => exact ih (hp.2 r)

theorem run_of_leaves_interpret {p : Program Store.Call Store.Answer α} {m m' : Memory} {a : α}
    (h : Leaves (p.interpret fun c => ask (.config c)) m a m') :
    p.run Memory.answer m = (a, m') := by
  induction p generalizing m with
  | done b =>
    cases h
    rfl
  | ask c k ih =>
    cases h with
    | config h => exact ih _ h
    | other hq => exact hq.elim

theorem onMemory_of_leaves {p : Store.Client α} {m m' : Memory} {r : Except ChassisError α}
    (h : Leaves (onConfig p).run m r m') :
    r = (p.onMemory m).1.mapError .system ∧ m' = (p.onMemory m).2 := by
  obtain ⟨r', m₁, hp, hr⟩ := exists_leaves_of_bind h
  have hrun : p.onMemory m = (r', m₁) := run_of_leaves_interpret hp
  cases hr
  rw [hrun]
  exact ⟨rfl, rfl⟩

/-- Wherever CONFIG_DB answers and other requests leave it alone, what happens to a program is
covered. -/
theorem leaves_run {σ : Type} (config : σ → Memory) (handle : (q : Request) → σ → Answer q × σ)
    (hc : ∀ c s, (handle (.config c) s).1 = (Memory.answer c (config s)).1 ∧
      config (handle (.config c) s).2 = (Memory.answer c (config s)).2)
    (ho : ∀ q s, q.SparesConfig → config (handle q s).2 = config s)
    (p : Program Request Answer α) (s : σ) :
    Leaves p (config s) (p.run handle s).1 (config (p.run handle s).2) := by
  induction p generalizing s with
  | done a => exact .done a _
  | ask q k ih =>
    have hk := ih (handle q s).1 (handle q s).2
    by_cases hq : q.SparesConfig
    · rw [ho q s hq] at hk
      exact .other hq _ hk
    · cases q with
      | config c =>
        refine .config ?_
        rw [← (hc c s).1, ← (hc c s).2]
        exact hk
      | observed | chassisState | service | pause => exact absurd trivial hq

end Fabric

/-! ## Commands -/

namespace Chassis

open Fabric (Leaves Request)

variable {c : Chassis} {module : ModuleName} {target : AdminStatus} {m m' : Memory}

theorem onMemory_request {o : TransitionOutcome}
    (h : (c.guard.requestTransition module target).onMemory m = (.ok o, m')) :
    (c.request module target).onMemory m = (.ok ⟨module, target, o, none⟩, m') :=
  Attempt.runWith_bind_ok h _

theorem reconcileFabric_of_not_isApplied {report : TransitionReport}
    (h : report.outcome.isApplied = false) : c.reconcileFabric report = pure report := by
  rw [reconcileFabric, h]
  rfl

theorem asks_reconcileFabric (c : Chassis) (report : TransitionReport) :
    (c.reconcileFabric report).Asks Request.SparesConfig := by
  unfold reconcileFabric
  split
  · exact Attempt.asks_pure report
  · split
    · exact Attempt.asks_throw _
    · exact Attempt.asks_bind (Fabric.asks_reconcile _ _ _) fun _ => Attempt.asks_pure _

/-- Where CONFIG_DB answers, a command that fails has been granted by the guard. -/
theorem granted_of_leaves_error {e : ChassisError}
    (h : Leaves (c.transition module target).run m (.error e) m') :
    recordIn m' module.name = c.guard.grantedRecord target := by
  obtain ⟨o, m₁, hr, hreq⟩ := Guard.exists_requested_onMemory c.guard module target m
  obtain ⟨r, m₂, hc, hf⟩ := Fabric.exists_leaves_of_bind h
  obtain ⟨rfl, rfl⟩ := Fabric.onMemory_of_leaves hc
  rw [onMemory_request hr] at hf
  change Leaves (c.reconcileFabric ⟨module, target, o, none⟩).run m₁ (.error e) m' at hf
  obtain rfl := Fabric.eq_of_leaves (asks_reconcileFabric c _) hf
  cases ho : o.isApplied with
  | true => exact hreq.record_of_isApplied ho
  | false =>
    rw [reconcileFabric_of_not_isApplied ho] at hf
    cases hf

end Chassis

end ChassisAdmin
