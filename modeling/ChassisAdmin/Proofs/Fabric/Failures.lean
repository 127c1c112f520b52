import ChassisAdmin.Chassis
import ChassisAdmin.Proofs.Fabric.Plan

/-!
# Whose fault a failure is

An error of a command on modules is the operator's fault if a name was given that
does not exist, and the exit status tells such errors apart.  Only looking at the
name raises them (`isUsage_of_resolveModule`).  What is done after that fails for
other reasons only (`raises_reconcileFabric`).
-/

namespace ChassisAdmin

namespace Fabric

/-- The failure is not the operator's fault. -/
abbrev NotUsage (e : ChassisError) : Prop := e.isUsage = false

/-- Where the system failed, the operator is not to blame. -/
theorem raises_system {α : Type} (p : Attempt Request Answer SystemError α) :
    (p.mapError ChassisError.system).Raises NotUsage := by
  have hsystem : ∀ e, NotUsage (.system e) := fun _ => rfl
  exact Attempt.raises_mapError_of_forall hsystem p

theorem raises_awaitStatus (r : Reconciler) (name : String) (expected : AdminStatus)
    (elapsed : Nat) : (awaitStatus r name expected elapsed).Raises NotUsage := by
  induction elapsed using awaitStatus.induct r with
  | case1 elapsed ih =>
    rw [awaitStatus]
    refine Attempt.raises_bind (raises_system _) ?_
    intro status
    split
    · exact Attempt.raises_pure false
    · refine Attempt.raises_bind (Attempt.raises_request fun _ _ he => by cases he) ?_
      intro _
      split
      · exact Attempt.raises_pure true
      · next hlt => exact ih hlt

theorem raises_lookUp (r : Reconciler) (module : ModuleName) (target : AdminStatus) :
    (lookUp r module target).Raises NotUsage := by
  refine Attempt.raises_bind (raises_awaitStatus r _ target 0) ?_
  intro late
  split
  · exact Attempt.raises_throw rfl
  · exact raises_system _

theorem not_usage_of_verdict {card : String} {task : Task} {r : Answer task.request}
    {e : ChassisError} (h : task.verdict card r = .error e) : NotUsage e := by
  cases task with
  | check a =>
    match r with
    | .ok true | .error _ =>
      cases h
      rfl
    | .ok false => cases h
  | stop | deleteRow | resetFailed | start =>
    cases r with
    | ok => cases h
    | error =>
      cases h
      rfl

section CarryOut

variable {E : ChassisError → Prop} {card : String}

theorem raises_inTurn
    (h : ∀ (task : Task) (r : Answer task.request) e, task.verdict card r = .error e → E e)
    (tasks : List Task) : (inTurn card tasks).Raises E := by
  induction tasks with
  | nil => exact Attempt.raises_pure ()
  | cons task tasks ih =>
    rw [inTurn, Task.step_eq]
    exact Attempt.raises_bind (Attempt.raises_request (h task)) fun _ => ih

theorem raises_carryOut
    (h : ∀ (task : Task) (r : Answer task.request) e, task.verdict card r = .error e → E e)
    (target : AdminStatus) (asics : List Nat) : (carryOut card target asics).Raises E := by
  unfold carryOut
  split
  · exact Attempt.raises_pure _
  · exact Attempt.raises_bind (raises_inTurn h _) fun _ => Attempt.raises_pure _

end CarryOut

theorem raises_reconcile (r : Reconciler) (module : ModuleName) (target : AdminStatus) :
    (reconcile r module target).Raises NotUsage := by
  rw [reconcile_eq_lookUp_bind]
  exact Attempt.raises_bind (raises_lookUp r module target)
    (raises_carryOut (fun _ _ _ => not_usage_of_verdict) target)

end Fabric

namespace Chassis

/-- A name that stands for no module is the operator's fault. -/
theorem isUsage_of_resolveModule {c : Chassis} {name : String} {e : ChassisError}
    (h : c.resolveModule name = .error e) : e.isUsage = true := by
  have hparse : ∀ {name}, ModuleName.parse name = .error e → e.isUsage = true := by
    intro name h
    unfold ModuleName.parse at h
    split at h
    · cases h
    · cases h
      rfl
  unfold resolveModule at h
  split at h
  · split at h
    · exact hparse h
    · cases h
      rfl
  · exact hparse h

theorem raises_reconcileFabric (c : Chassis) (report : TransitionReport) :
    (c.reconcileFabric report).Raises Fabric.NotUsage := by
  unfold reconcileFabric
  split
  · exact Attempt.raises_pure report
  · split
    · exact Attempt.raises_throw rfl
    · exact Attempt.raises_bind (Fabric.raises_reconcile _ _ _) fun _ => Attempt.raises_pure _

end Chassis

end ChassisAdmin
