import ChassisAdmin.Proofs.Fabric.Removal

/-!
# A chassis with an obedient service manager

A `Site` is what commands on modules work on where both databases answer every
call and the service manager is left open: its answer to a call may depend on all
the calls before.  `Manager.Obedient` asks two things of it.  It carries out
every call, and it finds a unit inactive when it is asked right after it stopped
the unit.

That is enough for the tasks of a plan to be done to the end (`exists_ran_plan`).
So a command for another status than the card has is applied, and it reports on
the ASICs that are bound to the card (`exists_run_transition`).
-/

namespace ChassisAdmin.Fabric

open Service (unitOfAsic)
open Store (Memory)
open ChassisAdmin.Module (recordIn withRecord)

/-- A service manager: its answer to a call may depend on the calls before it. -/
abbrev Manager : Type := List Service.Call → (c : Service.Call) → Service.Answer c

/-- The manager carries out every call and finds a unit inactive right after it stopped it. -/
structure Manager.Obedient (services : Manager) : Prop where
  carriesOut : ∀ past c, ∃ v, services past c = .ok v
  inactive : ∀ past unit, services (past ++ [.stop unit]) (.isActive unit) = .ok false

theorem Manager.Obedient.exists_mapError_eq_ok {services : Manager} (hs : services.Obedient)
    (past : List Service.Call) (c : Service.Call) :
    ∃ v, (services past c).mapError ChassisError.system = .ok v := by
  obtain ⟨v, hv⟩ := hs.carriesOut past c
  exact ⟨v, by rw [hv]; rfl⟩

/-- What commands on modules work on. -/
structure Site where
  /-- CONFIG_DB. -/
  config : Memory
  /-- CHASSIS_STATE_DB. -/
  chassisState : Memory
  /-- The calls on the service manager so far. -/
  calls : List Service.Call

namespace Site

variable {α β : Type} (services : Manager)

/-- Answers a request.  The reconciler sees CONFIG_DB as it is. -/
def answer : (q : Request) → Site → Answer q × Site
  | .config c, s => ((Memory.answer c s.config).1, { s with config := (Memory.answer c s.config).2 })
  | .observed c, s => ((Memory.answer c s.config).1, s)
  | .chassisState c, s =>
      ((Memory.answer c s.chassisState).1,
        { s with chassisState := (Memory.answer c s.chassisState).2 })
  | .service c, s => (services s.calls c, { s with calls := s.calls ++ [c] })
  | .pause _, s => ((), s)

/-- Runs a command or a part of one. -/
def run (s : Site) (p : Step α) : Except ChassisError α × Site :=
  Attempt.runWith (answer services) p s

variable {services} {s s' s₁ : Site} {a : α}

theorem run_bind {p : Step α} (h : s.run services p = (.ok a, s')) (f : α → Step β) :
    s.run services (p >>= f) = s'.run services (f a) := Attempt.runWith_bind_ok h f

section Databases

variable {p : Store.Client α} {m : Memory}

theorem run_onConfig (h : p.onMemory s.config = (.ok a, m)) :
    s.run services (onConfig p) = (.ok a, { s with config := m }) := by
  refine Attempt.runWith_mapError_ok ?_ _
  exact Attempt.runWith_interpret_part Site.config (fun s m => { s with config := m })
    (fun _ => rfl) (fun _ _ => rfl) (fun _ _ _ => rfl) (fun _ _ => rfl) h

theorem run_onChassisState (h : p.onMemory s.chassisState = (.ok a, m)) :
    s.run services (onChassisState p) = (.ok a, { s with chassisState := m }) := by
  refine Attempt.runWith_mapError_ok ?_ _
  exact Attempt.runWith_interpret_part Site.chassisState (fun s m => { s with chassisState := m })
    (fun _ => rfl) (fun _ _ => rfl) (fun _ _ _ => rfl) (fun _ _ => rfl) h

end Databases

theorem replies_answer (q : Request) (s : Site) :
    Replies q s.chassisState (answer services q s).1 (answer services q s).2.chassisState := by
  cases q with
  | chassisState c => exact .answered c _
  | config | observed | service | pause => rfl

/-! ## Tasks -/

end Site

/-- The call of a task on the service manager. -/
def Task.call? : Task → Option Service.Call
  | stop a => some (.stop (unitOfAsic a))
  | check a => some (.isActive (unitOfAsic a))
  | deleteRow _ => none
  | resetFailed a => some (.resetFailed (unitOfAsic a))
  | start a => some (.start (unitOfAsic a))

namespace Site

variable {services : Manager} {s s' s₁ : Site} {card : String} {task : Task} {tasks l₁ l₂ : List Task}

/-- Tasks are done to the end, and they leave CONFIG_DB as it is. -/
structure Ran (services : Manager) (card : String) (tasks : List Task) (s s' : Site) : Prop where
  run : s.run services (inTurn card tasks) = (.ok (), s')
  config : s'.config = s.config
  calls : s'.calls = s.calls ++ tasks.filterMap Task.call?

theorem Ran.nil (services : Manager) (card : String) (s : Site) : Ran services card [] s s :=
  ⟨rfl, rfl, (List.append_nil _).symm⟩

theorem Ran.append (h₁ : Ran services card l₁ s s₁) (h₂ : Ran services card l₂ s₁ s') :
    Ran services card (l₁ ++ l₂) s s' where
  run := by rw [inTurn_append, run_bind h₁.run, h₂.run]
  config := h₂.config.trans h₁.config
  calls := by rw [h₂.calls, h₁.calls, List.filterMap_append, List.append_assoc]

/-- A task is done where its request gets an answer that does not end it. -/
theorem ran_task (h : task.verdict card (answer services task.request s).1 = .ok ()) :
    Ran services card [task] s (answer services task.request s).2 where
  run := by
    have hstep : s.run services (task.step card) = (.ok (), (answer services task.request s).2) := by
      rw [Task.step_eq, ← h]
      rfl
    exact run_bind hstep _
  config := by
    cases task with
    | stop | check | deleteRow | resetFailed | start => rfl
  calls := by
    cases task with
    | deleteRow => exact (List.append_nil _).symm
    | stop | check | resetFailed | start => rfl

theorem verdict_eq_ok (hs : services.Obedient) (card : String) (s : Site)
    (hcheck : ∀ a, task = .check a → ∃ past, s.calls = past ++ [.stop (unitOfAsic a)]) :
    task.verdict card (answer services task.request s).1 = .ok () := by
  cases task with
  | check a =>
    obtain ⟨past, hpast⟩ := hcheck a rfl
    change Task.verdict card (.check a) (services s.calls (.isActive (unitOfAsic a))) = .ok ()
    rw [hpast, hs.inactive]
    rfl
  | deleteRow a => rfl
  | stop a => exact (hs.exists_mapError_eq_ok s.calls (.stop (unitOfAsic a))).choose_spec
  | resetFailed a =>
    exact (hs.exists_mapError_eq_ok s.calls (.resetFailed (unitOfAsic a))).choose_spec
  | start a => exact (hs.exists_mapError_eq_ok s.calls (.start (unitOfAsic a))).choose_spec

theorem exists_ran_of_no_check (hs : services.Obedient) (card : String) (s : Site)
    (hcheck : ∀ task ∈ tasks, ∀ a, task ≠ .check a) : ∃ s', Ran services card tasks s s' := by
  induction tasks generalizing s with
  | nil => exact ⟨s, .nil services card s⟩
  | cons task tasks ih =>
    obtain ⟨htask, htasks⟩ := List.forall_mem_cons.1 hcheck
    have hfirst := ran_task (verdict_eq_ok hs card s fun a h => absurd h (htask a))
    obtain ⟨s', hrest⟩ := ih _ htasks
    exact ⟨s', hfirst.append hrest⟩

/-- A plan is done to the end. -/
theorem exists_ran_plan (hs : services.Obedient) (card : String) (s : Site) (target : AdminStatus)
    (asics : List Nat) : ∃ s', Ran services card (plan target asics) s s' := by
  cases target with
  | up =>
    refine exists_ran_of_no_check hs card s fun task htask a => ?_
    obtain ⟨b, -, rfl⟩ := List.mem_map.1 htask
    exact Task.noConfusion
  | down =>
    rcases List.eq_nil_or_concat asics with rfl | ⟨first, last, rfl⟩
    · exact ⟨s, .nil services card s⟩
    -- The check comes right after the last service was stopped.
    obtain ⟨s₁, hstop⟩ : ∃ s₁, Ran services card ((first ++ [last]).map .stop) s s₁ := by
      refine exists_ran_of_no_check hs card s fun task htask a => ?_
      obtain ⟨b, -, rfl⟩ := List.mem_map.1 htask
      exact Task.noConfusion
    have hcalls : ∃ past, s₁.calls = past ++ [.stop (unitOfAsic last)] := by
      refine ⟨s.calls ++ first.map fun a => .stop (unitOfAsic a), ?_⟩
      rw [hstop.calls]
      simp [Task.call?, Function.comp_def]
    obtain ⟨s₂, hcheck⟩ : ∃ s₂, Ran services card [.check last] s₁ s₂ :=
      ⟨_, ran_task (verdict_eq_ok hs card s₁ fun a h => by cases h; exact hcalls)⟩
    obtain ⟨s', hrest⟩ : ∃ s', Ran services card ((first ++ [last]).map .deleteRow ++
        (first ++ [last]).flatMap restart) s₂ s' := by
      refine exists_ran_of_no_check hs card s₂ fun task htask a => ?_
      rcases List.mem_append.1 htask with htask | htask
      · obtain ⟨b, -, rfl⟩ := List.mem_map.1 htask
        exact Task.noConfusion
      · obtain ⟨b, -, hb⟩ := List.mem_flatMap.1 htask
        rintro rfl
        simp [restart] at hb
    refine ⟨s', ?_⟩
    rw [List.concat_eq_append, plan, List.getLast?_concat]
    exact hstop.append (hcheck.append hrest)

/-- What tasks that were done leave in CHASSIS_STATE_DB. -/
theorem Ran.get?_chassisState (h : Ran services card tasks s s') (key : String) :
    s'.chassisState.records.get? key =
      if key ∈ deletedKeys tasks then none else s.chassisState.records.get? key := by
  obtain ⟨t, ht⟩ := exists_transcript_of_runWith Site.chassisState replies_answer h.run
  exact get?_of_transcript_inTurn ht key

/-! ## Commands -/

open Chassis (equipped onMemory_request)

variable {r : Reconciler} {module : ModuleName} {target : AdminStatus} {asics : List Nat} {g : Guard}
  {platform : Platform} {pollTimeout : Nat}

/-- What a reconciliation reports that came to its end. -/
def report (target : AdminStatus) (asics : List Nat) : Outcome :=
  if asics.isEmpty then .noAsics else reconciled target asics

theorem exists_run_reconcile (hs : services.Obedient)
    (hseen : r.guard.adminStatusOf (recordIn s.config module.name) = target)
    (hb : Bound s.chassisState module.name asics) :
    ∃ s', s.run services (reconcile r module target) = (.ok (report target asics), s') ∧
      Ran services module.name (plan target asics) s s' := by
  have hstatus : s.run services (onObserved (r.guard.currentAdminStatus module.name)) =
      (.ok target, s) := by
    rw [← hseen]
    rfl
  have hfound : s.run services (lookUp r module target) = (.ok asics, s) :=
    runWith_lookUp hstatus (run_onChassisState hb)
  rw [reconcile_eq_lookUp_bind, run_bind hfound, carryOut, report]
  split
  · next hempty =>
    rw [List.isEmpty_iff.1 hempty]
    exact ⟨s, rfl, plan_eq_nil_iff.2 rfl ▸ .nil services module.name s⟩
  · obtain ⟨s', hran⟩ := exists_ran_plan hs module.name s target asics
    exact ⟨s', run_bind hran.run _, hran⟩

/-- A command for the status that is there already does nothing. -/
theorem run_transition_of_same (hseen : g.adminStatusOf (recordIn s.config module.name) = target) :
    s.run services ((equipped platform g pollTimeout).transition module target) =
      (.ok ⟨module, target, .alreadyInTargetState, none⟩, s) := by
  have hrequest : s.run services (onConfig ((equipped platform g pollTimeout).request module target)) =
      (.ok ⟨module, target, .alreadyInTargetState, none⟩, s) :=
    run_onConfig (onMemory_request (Guard.onMemory_of_same hseen))
  rw [Chassis.transition, run_bind hrequest]
  rfl

/-- On a standard chassis a command for another status than the card has is applied, and all that
is planned for the ASICs of the card is done. -/
theorem exists_run_transition (hs : services.Obedient) (hcard : module.isFabricCard = true)
    (hg : g.smartswitch = false) (hother : g.adminStatusOf (recordIn s.config module.name) ≠ target)
    (hb : Bound s.chassisState module.name asics) :
    ∃ s', s.run services ((equipped platform g pollTimeout).transition module target) =
        (.ok ⟨module, target, .applied, some (report target asics)⟩, s') ∧
      Ran services module.name (plan target asics)
        { s with config := withRecord s.config module.name (Guard.plainRecord target) } s' := by
  let s₁ : Site := { s with config := withRecord s.config module.name (Guard.plainRecord target) }
  have hrequest : s.run services (onConfig ((equipped platform g pollTimeout).request module target)) =
      (.ok ⟨module, target, .applied, none⟩, s₁) :=
    run_onConfig (onMemory_request (Guard.onMemory_of_standard hg hother))
  have hseen : g.adminStatusOf (recordIn s₁.config module.name) = target := by
    rw [show recordIn s₁.config module.name = _ from Memory.entry_put_self _ _ _ _]
    exact Guard.adminStatusOf_plainRecord g target hg
  obtain ⟨s', hrun, hran⟩ := exists_run_reconcile (r := ⟨g, pollTimeout⟩) hs hseen hb
  refine ⟨s', ?_, hran⟩
  rw [Chassis.transition, run_bind hrequest, Chassis.reconcileFabric, hcard]
  exact run_bind hrun _

end Site

end ChassisAdmin.Fabric
