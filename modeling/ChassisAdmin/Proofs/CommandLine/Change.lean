import ChassisAdmin.Proofs.CommandLine.Reconciling

/-!
# Shutting modules down and starting them up

A change of a module's status goes one of three ways (`changed_of_transcript`).
The name stands for no module, and nothing was done.  A call on CONFIG_DB failed
while the guard was asked, and nothing was told.  Or the guard answered, and what
it did was told before the services of a fabric card were reconciled.
-/

namespace ChassisAdmin.CommandLine

open Store (Address Memory)

variable {ι : Type} {place : Address → ι} {w w' : ι → Memory} {t : List (Exchange Request Answer)}
  {c : Config}

/-! ## The parts of a change -/

/-- In the course of a command the guard was asked: what passed between it and CONFIG_DB, what it
answered, and CONFIG_DB after that. -/
def Asked (place : Address → ι) (c : Config) (g : Guard) (module : ModuleName)
    (target : AdminStatus) (w : ι → Memory) (t : List (Exchange Request Answer))
    (answer : Except SystemError TransitionOutcome) (m : Memory) : Prop :=
  ∃ t₁ calls t₂, t = t₁ ++ (callsOn (c.address .config) calls ++ t₂) ∧
    (g.requestTransition module target).Transcript (Store.Reply fun _ => True)
      (w (place (c.address .config))) calls answer m

theorem Asked.append {g : Guard} {module : ModuleName} {target : AdminStatus}
    {answer : Except SystemError TransitionOutcome} {m : Memory}
    (h : Asked place c g module target w t answer m) (t₀ t₃ : List (Exchange Request Answer)) :
    Asked place c g module target w (t₀ ++ (t ++ t₃)) answer m := by
  obtain ⟨t₁, calls, t₂, rfl, hcalls⟩ := h
  exact ⟨t₀ ++ t₁, calls, t₂ ++ t₃, by simp only [List.append_assoc], hcalls⟩

theorem Asked.requested {g : Guard} {module : ModuleName} {target : AdminStatus}
    {answer : Except SystemError TransitionOutcome} {m : Memory}
    (h : Asked place c g module target w t answer m) :
    Guard.Requested (fun _ => True) g module.name target (w (place (c.address .config))) answer
      m := by
  obtain ⟨-, calls, -, -, hcalls⟩ := h
  exact Guard.requested_of_ends (Store.ends_of_transcript hcalls)

variable [DecidableEq ι]

/-- The chassis with what the change of a module needs. -/
def equipped (chassis : Chassis) (module : ModuleName) : Chassis :=
  if module.isFabricCard then
    { chassis with fabric := some ⟨chassis.guard, Fabric.pollTimeout⟩ }
  else chassis

theorem transcript_equip {chassis : Chassis} {module : ModuleName} {r : Except Failure Chassis}
    (h : (equip c chassis module).Transcript (Replies place) w t r w') :
    r = .ok (equipped chassis module) ∧ Quiet t ∧ w' = w := by
  unfold equip at h
  unfold equipped
  split at h
  · rw [if_pos ‹_›]
    rcases Attempt.transcript_bind_iff.1 h with
      ⟨e, hconnect, -⟩ | ⟨_, t₁, w₁, t₂, hconnect, hr, rfl⟩
    · cases (transcript_connect hconnect).1
    · obtain ⟨-, hquiet, rfl⟩ := transcript_connect hconnect
      obtain ⟨rfl, rfl, rfl⟩ := Attempt.transcript_pure_iff.1 hr
      exact ⟨rfl, hquiet.append .nil, rfl⟩
  · rw [if_neg ‹_›]
    obtain ⟨rfl, rfl, rfl⟩ := Attempt.transcript_pure_iff.1 h
    exact ⟨rfl, .nil, rfl⟩

/-- The lines on what a reconciliation did. -/
def fabricLines : Except Failure TransitionReport → List String
  | .ok report => (report.fabric.map fabricMessages).getD []
  | .error _ => []

/-- The ways that a change of a module's status can go. -/
inductive Changed (place : Address → ι) (c : Config) (chassis : Chassis) (name : String)
    (target : AdminStatus) (w : ι → Memory) :
    List (Exchange Request Answer) → Except Failure Unit → (ι → Memory) → Prop where
  /-- The name stands for no module. -/
  | unknown {t : List (Exchange Request Answer)} {e : ChassisError}
      (hname : chassis.resolveModule name = .error e) (hquiet : Quiet t) :
      Changed place c chassis name target w t (.error (.module e)) w
  /-- A call on CONFIG_DB failed while the guard was asked. -/
  | refused {t : List (Exchange Request Answer)} {module : ModuleName} {e : SystemError}
      {m : Memory} (hname : chassis.resolveModule name = .ok module)
      (hguard : Asked place c chassis.guard module target w t (.error e) m) (hquiet : Quiet t) :
      Changed place c chassis name target w t (.error (.module (.system e)))
        (Function.update w (place (c.address .config)) m)
  /-- The guard answered, which was told, and then the services were seen to. -/
  | answered {t₁ t₂ t₃ : List (Exchange Request Answer)} {module : ModuleName}
      {o : TransitionOutcome} {m : Memory} {r : Except Failure TransitionReport} {w' : ι → Memory}
      (hname : chassis.resolveModule name = .ok module)
      (hguard : Asked place c chassis.guard module target w t₁ (.ok o) m)
      (hreconcile : (onModules c ((equipped chassis module).reconcileFabric
        ⟨module, target, o, none⟩)).Transcript (Replies place)
          (Function.update w (place (c.address .config)) m) t₂ r w')
      (hbefore : printed t₁ = requestMessages ⟨module, target, o, none⟩)
      (hbefore' : serviceCalls t₁ = []) (hafter : printed t₃ = fabricLines r)
      (hafter' : serviceCalls t₃ = []) :
      Changed place c chassis name target w (t₁ ++ (t₂ ++ t₃)) (r.map fun _ => ()) w'

/-- A quiet part before or after a change is no other change. -/
theorem Changed.append {chassis : Chassis} {name : String} {target : AdminStatus}
    {r : Except Failure Unit} {t₀ t₁ : List (Exchange Request Answer)}
    (h : Changed place c chassis name target w t r w') (h₀ : Quiet t₀) (h₁ : Quiet t₁) :
    Changed place c chassis name target w (t₀ ++ (t ++ t₁)) r w' := by
  cases h with
  | unknown hname hquiet => exact .unknown hname (h₀.append (hquiet.append h₁))
  | refused hname hguard hquiet =>
    exact .refused hname (hguard.append t₀ t₁) (h₀.append (hquiet.append h₁))
  | @answered t₂ t₃ t₄ module o m r w' hname hguard hreconcile hbefore hbefore' hafter hafter' =>
    rw [show t₀ ++ ((t₂ ++ (t₃ ++ t₄)) ++ t₁) = (t₀ ++ t₂) ++ (t₃ ++ (t₄ ++ t₁)) by
      simp only [List.append_assoc]]
    have hguard' := hguard.append t₀ []
    rw [List.append_nil] at hguard'
    refine .answered hname hguard' hreconcile ?_ ?_ ?_ ?_
    · rw [printed_append, h₀.printed, hbefore, List.nil_append]
    · rw [serviceCalls_append, h₀.serviceCalls, hbefore', List.nil_append]
    · rw [printed_append, h₁.printed, hafter, List.append_nil]
    · rw [serviceCalls_append, h₁.serviceCalls, hafter', List.append_nil]

/-- The guard is asked, and its answer becomes a report. -/
theorem transcript_request {chassis : Chassis} {module : ModuleName} {target : AdminStatus}
    {r : Except Failure TransitionReport}
    (h : (onModules c (Fabric.onConfig (chassis.request module target))).Transcript (Replies place)
      w t r w') :
    ∃ answer m, Asked place c chassis.guard module target w t answer m ∧
      r = (answer.map fun o => (⟨module, target, o, none⟩ : TransitionReport)).mapError
        (fun e => .module (.system e)) ∧
      w' = Function.update w (place (c.address .config)) m ∧ Quiet t := by
  obtain ⟨calls, r₀, m, rfl, hcalls, rfl, rfl⟩ := transcript_of_onConfig h
  have hquiet := quiet_callsOn (c.address .config) calls
  have hasked : ∀ {answer}, (chassis.guard.requestTransition module target).Transcript
      (Store.Reply fun _ => True) (w (place (c.address .config))) calls answer m →
        Asked place c chassis.guard module target w (callsOn (c.address .config) calls) answer m :=
    fun hanswer => ⟨[], calls, [], (List.append_nil _).symm, hanswer⟩
  rcases Attempt.transcript_bind_iff.1 hcalls with
    ⟨e, hanswer, rfl⟩ | ⟨o, t₁, m₁, t₂, hanswer, hr, rfl⟩
  · exact ⟨.error e, m, hasked hanswer, rfl, rfl, hquiet⟩
  · obtain ⟨rfl, rfl, rfl⟩ := Attempt.transcript_pure_iff.1 hr
    rw [List.append_nil] at hasked hquiet ⊢
    exact ⟨.ok o, m, hasked hanswer, rfl, rfl, hquiet⟩

/-- Changes the status of a module whose name has been looked at. -/
def setStatusOf (c : Config) (chassis : Chassis) (module : ModuleName) (target : AdminStatus) :
    Step Unit := do
  let chassis ← equip c chassis module
  let report ← onModules c (Fabric.onConfig (chassis.request module target))
  printAll (requestMessages report)
  let report ← onModules c (chassis.reconcileFabric report)
  printAll ((report.fabric.map fabricMessages).getD [])

theorem setAdminStatus_eq (c : Config) (p : Platform) (name : String) (target : AdminStatus) :
    setAdminStatus c p name target = (do
      connect c .config
      let now ← get .clock
      match (Chassis.new p now).resolveModule name with
      | .ok module => setStatusOf c (.new p now) module target
      | .error e => throw (.module e)) := by
  refine bind_congr fun _ => (bind_assoc _ _ _).trans (bind_congr fun now => ?_)
  change (liftM (((Chassis.new p now).resolveModule name).mapError Failure.module) >>= _ :
    Step Unit) = _
  cases (Chassis.new p now).resolveModule name with
  | ok module => rfl
  | error e => rfl

theorem guard_equipped (chassis : Chassis) (module : ModuleName) :
    (equipped chassis module).guard = chassis.guard := by
  unfold equipped
  split <;> rfl

/-- What was told and seen to once the guard has answered. -/
theorem transcript_reconcile_and_tell {chassis : Chassis} {report : TransitionReport}
    {r : Except Failure Unit}
    (h : (do
        let report ← onModules c (chassis.reconcileFabric report)
        printAll ((report.fabric.map fabricMessages).getD []) : Step Unit).Transcript
      (Replies place) w t r w') :
    ∃ t₁ t₂ r₁, t = t₁ ++ t₂ ∧
      (onModules c (chassis.reconcileFabric report)).Transcript (Replies place) w t₁ r₁ w' ∧
      printed t₂ = fabricLines r₁ ∧ serviceCalls t₂ = [] ∧ r = r₁.map fun _ => () := by
  rcases Attempt.transcript_bind_iff.1 h with ⟨e, hr, rfl⟩ | ⟨report', t₁, w₁, t₂, hr, hlines, rfl⟩
  · exact ⟨t, [], .error e, (List.append_nil t).symm, hr, rfl, rfl, rfl⟩
  · obtain ⟨rfl, hprinted, hcalls, rfl⟩ := transcript_printAll hlines
    exact ⟨t₁, t₂, .ok report', rfl, hr, hprinted, hcalls, rfl⟩

theorem changed_of_resolved {chassis : Chassis} {name : String} {module : ModuleName}
    {target : AdminStatus} {r : Except Failure Unit}
    (hname : chassis.resolveModule name = .ok module)
    (h : (setStatusOf c chassis module target).Transcript (Replies place) w t r w') :
    Changed place c chassis name target w t r w' := by
  rcases Attempt.transcript_bind_iff.1 h with ⟨e, hequip, -⟩ | ⟨_, t₁, w₁, t₂, hequip, hrest, rfl⟩
  · cases (transcript_equip hequip).1
  obtain ⟨he, hquiet₁, rfl⟩ := transcript_equip hequip
  cases he
  rcases Attempt.transcript_bind_iff.1 hrest with
    ⟨e, hask, rfl⟩ | ⟨report, t₃, w₃, t₄, hask, htell, rfl⟩
  · obtain ⟨answer, m, hanswer, he, rfl, hquiet₂⟩ := transcript_request hask
    rw [guard_equipped] at hanswer
    cases answer with
    | ok o => cases he
    | error e' =>
      cases he
      have hasked := hanswer.append t₁ []
      rw [List.append_nil] at hasked
      exact .refused hname hasked (hquiet₁.append hquiet₂)
  obtain ⟨answer, m, hanswer, he, rfl, hquiet₂⟩ := transcript_request hask
  rw [guard_equipped] at hanswer
  cases answer with
  | error e' => cases he
  | ok o =>
    cases he
    rcases Attempt.transcript_bind_iff.1 htell with
      ⟨e, hlines, -⟩ | ⟨_, t₅, w₅, t₆, hlines, hreconcile, rfl⟩
    · cases (transcript_printAll hlines).1
    obtain ⟨-, hprinted, hcalls, rfl⟩ := transcript_printAll hlines
    obtain ⟨t₇, t₈, r₁, rfl, hr₁, hprinted', hcalls', rfl⟩ :=
      transcript_reconcile_and_tell hreconcile
    rw [show t₁ ++ (t₃ ++ (t₅ ++ (t₇ ++ t₈))) = (t₁ ++ t₃ ++ t₅) ++ (t₇ ++ t₈) by
      simp only [List.append_assoc]]
    have hquiet := hquiet₁.append hquiet₂
    have hasked := hanswer.append t₁ t₅
    rw [← List.append_assoc] at hasked
    refine .answered hname hasked hr₁ ?_ ?_ hprinted' hcalls'
    · rw [printed_append, hquiet.printed, hprinted, List.nil_append]
    · rw [serviceCalls_append, hquiet.serviceCalls, hcalls, List.nil_append]

/-- A change of a module's status goes one of the three ways. -/
theorem changed_of_transcript {p : Platform} {name : String} {target : AdminStatus}
    {r : Except Failure Unit}
    (h : (setAdminStatus c p name target).Transcript (Replies place) w t r w') :
    ∃ now, (⟨.clock, now⟩ : Exchange Request Answer) ∈ t ∧
      Changed place c (.new p now) name target w t r w' := by
  rw [setAdminStatus_eq] at h
  rcases Attempt.transcript_bind_iff.1 h with
    ⟨e, hconnect, -⟩ | ⟨_, t₁, w₁, t₂, hconnect, hrest, rfl⟩
  · cases (transcript_connect hconnect).1
  obtain ⟨-, hquiet₁, rfl⟩ := transcript_connect hconnect
  rcases Attempt.transcript_bind_iff.1 hrest with
    ⟨e, hclock, -⟩ | ⟨now, t₃, w₃, t₄, hclock, hset, rfl⟩
  · obtain ⟨_, -, he, -⟩ := Attempt.transcript_request_iff.1 hclock
    cases he
  obtain ⟨_, rfl, he, rfl⟩ := Attempt.transcript_request_iff.1 hclock
  cases he
  refine ⟨now, List.mem_append_right t₁ List.mem_cons_self, ?_⟩
  have hquiet : Quiet (t₁ ++ [(⟨.clock, now⟩ : Exchange Request Answer)]) :=
    hquiet₁.append ⟨rfl, rfl⟩
  rw [← List.append_assoc, ← List.append_nil t₄]
  refine Changed.append ?_ hquiet .nil
  cases hname : (Chassis.new p now).resolveModule name with
  | ok module =>
    rw [hname] at hset
    exact changed_of_resolved hname hset
  | error e =>
    rw [hname] at hset
    obtain ⟨rfl, rfl, rfl⟩ := Attempt.transcript_throw_iff.1 hset
    exact .unknown hname .nil

end ChassisAdmin.CommandLine
