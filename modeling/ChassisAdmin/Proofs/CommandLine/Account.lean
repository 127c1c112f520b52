import ChassisAdmin.Proofs.CommandLine.Change
import ChassisAdmin.Proofs.Guard.Granted

/-!
# The account that a command gives of itself

A command that shuts a module down or starts it up tells the operator what it did
in three ways: by its exit status, by the lines it prints, and by what is in the
databases afterwards.  `Agreement` says how the three belong together.

* The exit status is 2 exactly if the name stands for no module, and then nothing
  was touched and nothing told.
* If the guard wrote nothing, that is told, nothing was touched, and the exit
  status is 0.
* If it wrote the status, that is told and the module has it, whatever becomes of
  the services.  The exit status is 1 exactly if reconciling them failed.  Nothing
  but CONFIG_DB is touched unless the module is a fabric card.
* If a call of the guard failed, nothing is told, and the exit status is 1.

`accounted_of_transcript` says that this is so whatever the services and the
databases answer, once the command has its configuration and its platform.
-/

namespace ChassisAdmin.CommandLine

open Store (Address Memory)

variable {ι : Type} [DecidableEq ι] {place : Address → ι} {w w' : ι → Memory}
  {t : List (Exchange Request Answer)} {c : Config}

/-! ## What belongs together -/

/-- The line on a change under way. -/
def underWay (module : ModuleName) : AdminStatus → String
  | .down => "Shutting down chassis module " ++ module.name
  | .up => "Starting up chassis module " ++ module.name

/-- What a change comes to that the guard has written: `m` is CONFIG_DB after that. -/
structure Applied (place : Address → ι) (c : Config) (chassis : Chassis) (module : ModuleName)
    (target : AdminStatus) (w : ι → Memory) (t : List (Exchange Request Answer)) (exit : Nat)
    (w' : ι → Memory) (o : TransitionOutcome) (m : Memory) : Prop where
  /-- The operator is told of the change. -/
  told : underWay module target ∈ printed t
  /-- The module has the status that was asked for. -/
  status : (chassis.guard.currentAdminStatus module.name).onMemory
    (w' (place (c.address .config))) = (.ok target, w' (place (c.address .config)))
  /-- Services and other databases are touched for fabric cards only. -/
  fabricOnly : module.isFabricCard = false →
    serviceCalls t = [] ∧ w' = Function.update w (place (c.address .config)) m
  /-- For these no other database is touched than CHASSIS_STATE_DB. -/
  elsewhere : ∀ i, i ≠ place (c.address .config) → i ≠ place (c.address .chassisState) → w' i = w i
  /-- The exit status tells whether the services were reconciled, and so do the lines. -/
  reconciled : ∃ t₁ t₂ t₃ r, t = t₁ ++ (t₂ ++ t₃) ∧
    (onModules c ((equipped chassis module).reconcileFabric ⟨module, target, o, none⟩)).Transcript
      (Replies place) (Function.update w (place (c.address .config)) m) t₂ r w' ∧
    printed t = requestMessages ⟨module, target, o, none⟩ ++ fabricLines r ∧
    (exit = 0 ∨ exit = 1) ∧ (exit = 1 ↔ ∃ e, r = .error e)

/-- What a change comes to, by what the guard answered: `m` is CONFIG_DB after that. -/
inductive Settled (place : Address → ι) (c : Config) (chassis : Chassis) (module : ModuleName)
    (target : AdminStatus) (w : ι → Memory) (t : List (Exchange Request Answer)) (exit : Nat)
    (w' : ι → Memory) : Except SystemError TransitionOutcome → Memory → Prop where
  /-- A call failed: nothing is told, and nothing is touched but CONFIG_DB. -/
  | refused {e : SystemError} {m : Memory} (hexit : exit = 1) (hprinted : printed t = [])
      (hcalls : serviceCalls t = []) (hw : w' = Function.update w (place (c.address .config)) m) :
      Settled place c chassis module target w t exit w' (.error e) m
  /-- Nothing was written: that is told, and nothing is touched. -/
  | kept {o : TransitionOutcome} {m : Memory} (ho : o.isApplied = false) (hexit : exit = 0)
      (hprinted : printed t = requestMessages ⟨module, target, o, none⟩)
      (hcalls : serviceCalls t = []) (hw : w' = w) :
      Settled place c chassis module target w t exit w' (.ok o) m
  /-- The status was written. -/
  | applied {o : TransitionOutcome} {m : Memory} (ho : o.isApplied = true)
      (h : Applied place c chassis module target w t exit w' o m) :
      Settled place c chassis module target w t exit w' (.ok o) m

/-- How the exit status of a change, its transcript and the databases it leaves belong together. -/
structure Agreement (place : Address → ι) (c : Config) (chassis : Chassis) (name : String)
    (target : AdminStatus) (w : ι → Memory) (t : List (Exchange Request Answer)) (exit : Nat)
    (w' : ι → Memory) : Prop where
  /-- The exit status is 2 exactly if the name stands for no module. -/
  exit_eq_two_iff : exit = 2 ↔ ∃ e, chassis.resolveModule name = .error e
  /-- Then nothing is touched and nothing told. -/
  unresolved : exit = 2 → w' = w ∧ serviceCalls t = [] ∧ printed t = []
  /-- Otherwise the guard is asked, and what it answers decides. -/
  resolved : ∀ module, chassis.resolveModule name = .ok module → ∃ answer m,
    Asked place c chassis.guard module target w t answer m ∧
    Settled place c chassis module target w t exit w' answer m

/-- The exit status of a command that ends so. -/
def exitOf : Except Failure Unit → Nat
  | .ok _ => 0
  | .error f => f.exitStatus

theorem reconcileFabric_of_not {chassis : Chassis} {report : TransitionReport}
    (h : report.outcome.isApplied = false ∨ report.module.isFabricCard = false) :
    chassis.reconcileFabric report = pure report := by
  unfold Chassis.reconcileFabric
  refine if_pos ?_
  rcases h with h | h <;> simp [h]

/-- Where there is nothing to reconcile, nothing is done. -/
theorem transcript_reconcileFabric_of_not {chassis : Chassis} {report : TransitionReport}
    {r : Except Failure TransitionReport}
    (hreport : report.outcome.isApplied = false ∨ report.module.isFabricCard = false)
    (h : (onModules c (chassis.reconcileFabric report)).Transcript (Replies place) w t r w') :
    r = .ok report ∧ t = [] ∧ w' = w := by
  rw [reconcileFabric_of_not hreport] at h
  exact Attempt.transcript_pure_iff.1 h

theorem underWay_mem_requestMessages {module : ModuleName} {target : AdminStatus}
    {o : TransitionOutcome} (ho : o.isApplied = true) :
    underWay module target ∈ requestMessages ⟨module, target, o, none⟩ := by
  cases o with
  | applied => cases target <;> exact List.mem_cons_self
  | appliedAfterTimeoutReclaim => cases target <;> exact List.mem_cons_of_mem _ List.mem_cons_self
  | alreadyInTargetState | rejectedDuplicateInProgress => cases ho

section Settled

variable {chassis : Chassis} {module : ModuleName} {target : AdminStatus} {o : TransitionOutcome}
  {m : Memory} {r : Except Failure TransitionReport} {t₁ t₂ t₃ : List (Exchange Request Answer)}

/-- The module has the status that the guard wrote, whatever became of the services. -/
theorem status_of_spared (ho : o.isApplied = true)
    (hguard : Asked place c chassis.guard module target w t₁ (.ok o) m)
    (hspared : Spared place c (Function.update w (place (c.address .config)) m) w') :
    (chassis.guard.currentAdminStatus module.name).onMemory (w' (place (c.address .config))) =
      (.ok target, w' (place (c.address .config))) := by
  have hrecord : Module.recordIn (w' (place (c.address .config))) module.name =
      chassis.guard.grantedRecord target := by
    rw [hspared.modules, Function.update_self]
    exact hguard.requested.record_of_isApplied ho
  change (Except.ok (chassis.guard.adminStatusOf (Module.recordIn _ module.name)), _) = _
  rw [hrecord, Guard.adminStatusOf_grantedRecord rfl]
  rfl

theorem settled_of_answered
    (hguard : Asked place c chassis.guard module target w t₁ (.ok o) m)
    (hreconcile : (onModules c ((equipped chassis module).reconcileFabric
      ⟨module, target, o, none⟩)).Transcript (Replies place)
        (Function.update w (place (c.address .config)) m) t₂ r w')
    (hbefore : printed t₁ = requestMessages ⟨module, target, o, none⟩)
    (hbefore' : serviceCalls t₁ = []) (hafter : printed t₃ = fabricLines r)
    (hafter' : serviceCalls t₃ = []) :
    Settled place c chassis module target w (t₁ ++ (t₂ ++ t₃)) (exitOf (r.map fun _ => ())) w'
      (.ok o) m := by
  obtain ⟨hprinted₂, hspared⟩ := spared_of_transcript hreconcile
  have hprinted : printed (t₁ ++ (t₂ ++ t₃)) =
      requestMessages ⟨module, target, o, none⟩ ++ fabricLines r := by
    rw [printed_append, printed_append, hbefore, hprinted₂, hafter, List.nil_append]
  have hcalls : serviceCalls (t₁ ++ (t₂ ++ t₃)) = serviceCalls t₂ := by
    rw [serviceCalls_append, serviceCalls_append, hbefore', hafter', List.nil_append,
      List.append_nil]
  cases ho : o.isApplied with
  | false =>
    obtain ⟨rfl, rfl, rfl⟩ := transcript_reconcileFabric_of_not (.inl ho) hreconcile
    obtain rfl := hguard.requested.eq_of_not_isApplied ho
    refine .kept ho rfl ?_ hcalls (Function.update_eq_self _ _)
    exact hprinted.trans (List.append_nil _)
  | true =>
    refine .applied ho ⟨?_, status_of_spared ho hguard hspared, fun hcard => ?_,
      fun i hconfig hchassis => ?_, t₁, t₂, t₃, r, rfl, hreconcile, hprinted, ?_⟩
    · rw [hprinted]
      exact List.mem_append_left _ (underWay_mem_requestMessages ho)
    · obtain ⟨rfl, rfl, rfl⟩ := transcript_reconcileFabric_of_not (.inr hcard) hreconcile
      exact ⟨hcalls, rfl⟩
    · exact (hspared.elsewhere i hchassis).trans (Function.update_of_ne hconfig _ _)
    · cases r with
      | ok report =>
        exact ⟨.inl rfl, iff_of_false (fun hexit : 0 = 1 => by omega) fun ⟨_, he⟩ => nomatch he⟩
      | error e =>
        have hexit : e.exitStatus = 1 := exitStatus_of_reconcileFabric hreconcile
        exact ⟨.inr hexit, iff_of_true hexit ⟨e, rfl⟩⟩

end Settled

/-- A change that goes one of the three ways keeps its exit status, its lines, the services and the
databases together. -/
theorem Changed.agreement {chassis : Chassis} {name : String} {target : AdminStatus}
    {r : Except Failure Unit} (h : Changed place c chassis name target w t r w') :
    Agreement place c chassis name target w t (exitOf r) w' := by
  cases h with
  | @unknown t e hname hquiet =>
    have hexit : exitOf (.error (.module e)) = 2 := if_pos (Chassis.isUsage_of_resolveModule hname)
    refine ⟨iff_of_true hexit ⟨e, hname⟩, fun _ => ⟨rfl, hquiet.serviceCalls, hquiet.printed⟩, ?_⟩
    intro module hmodule
    cases hname.symm.trans hmodule
  | @refused t module e m hname hguard hquiet =>
    have hresolved : ¬∃ e, chassis.resolveModule name = .error e := fun ⟨_, he⟩ =>
      nomatch hname.symm.trans he
    refine ⟨iff_of_false (fun hexit : 1 = 2 => by omega) hresolved,
      fun hexit : 1 = 2 => by omega, ?_⟩
    intro module' hmodule
    cases hname.symm.trans hmodule
    exact ⟨_, m, hguard, .refused rfl hquiet.printed hquiet.serviceCalls rfl⟩
  | @answered t₁ t₂ t₃ module o m r w' hname hguard hreconcile hbefore hbefore' hafter hafter' =>
    -- No failure of the reconciliation is the operator's fault, so 2 stays for unknown names.
    have hresolved : ¬∃ e, chassis.resolveModule name = .error e := fun ⟨_, he⟩ =>
      nomatch hname.symm.trans he
    have hsettled := settled_of_answered hguard hreconcile hbefore hbefore' hafter hafter'
    have hexit : exitOf (r.map fun _ => ()) ≠ 2 := by
      cases r with
      | ok report => exact (by decide : 0 ≠ 2)
      | error e =>
        change e.exitStatus ≠ 2
        rw [exitStatus_of_reconcileFabric hreconcile]
        decide
    refine ⟨iff_of_false hexit hresolved, fun h => absurd h hexit, ?_⟩
    intro module' hmodule
    cases hname.symm.trans hmodule
    exact ⟨_, m, hguard.append [] (t₂ ++ t₃), hsettled⟩

/-! ## The whole command -/

/-- The command that asks for a status of a module. -/
def changeOf (target : AdminStatus) (name : String) : Command :=
  match target with
  | .down => .shutdown name
  | .up => .startup name

/-- Reads the configuration and detects the platform. -/
def Invocation.prepare (i : Invocation) : Step (Config × Platform) := do
  let config ← loadConfig i.config
  let platform ← detectPlatform config
  return (config, platform)

theorem Invocation.run_eq (i : Invocation) :
    i.run = i.prepare >>= fun x => i.command.run x.1 x.2 := by
  unfold run prepare
  simp only [bind_assoc, pure_bind]

theorem asks_prepare (i : Invocation) : i.prepare.Asks Request.Prepares :=
  Attempt.asks_bind (asks_loadConfig _) fun _ =>
    Attempt.asks_bind (asks_detectPlatform _) fun _ => Attempt.asks_pure _

/-- A command that cannot be prepared ends with the exit status 1. -/
theorem raises_prepare (i : Invocation) : i.prepare.Raises (·.exitStatus = 1) := by
  have hget : ∀ q, (get q).Raises (·.exitStatus = 1) := fun q =>
    Attempt.raises_request fun _ _ he => nomatch he
  have hunprepared : ∀ step cause, (Failure.unprepared step cause).exitStatus = 1 := fun _ _ => rfl
  refine Attempt.raises_bind (Attempt.raises_bind (hget _) fun _ => ?_) fun config =>
    Attempt.raises_bind (Attempt.raises_bind (hget _) fun _ => ?_) fun _ => Attempt.raises_pure _
  · exact Attempt.raises_mapError_of_forall (hunprepared _) _
  · exact Attempt.raises_mapError_of_forall (hunprepared _) _

theorem transcript_exitStatusOf {r : Except Failure Unit} {exit : Nat}
    (h : (exitStatusOf r).Transcript (Replies place) w t exit w') :
    exit = exitOf r ∧ Quiet t ∧ w' = w := by
  cases r with
  | ok a =>
    obtain ⟨rfl, rfl, rfl⟩ := Program.transcript_done_iff.1 h
    exact ⟨rfl, .nil, rfl⟩
  | error f =>
    cases h with
    | ask hr hk =>
      obtain ⟨rfl, rfl, rfl⟩ := Program.transcript_done_iff.1 hk
      exact ⟨rfl, ⟨rfl, rfl⟩, hr⟩

theorem run_changeOf (c : Config) (p : Platform) (name : String) (target : AdminStatus) :
    (changeOf target name).run c p = setAdminStatus c p name target := by
  cases target with
  | up => rfl
  | down => rfl

/-- What a command that shuts a module down or starts it up comes to. -/
inductive Accounted (place : Address → ι) (i : Invocation) (name : String) (target : AdminStatus)
    (w : ι → Memory) (t : List (Exchange Request Answer)) (exit : Nat) (w' : ι → Memory) :
    Prop where
  /-- The configuration or the platform is not to be had: nothing is touched and nothing told. -/
  | unprepared {t₀ : List (Exchange Request Answer)} {e : Failure}
      (hprepare : i.prepare.Transcript (Replies place) w t₀ (.error e) w) (ht : t₀ <+: t)
      (hexit : exit = 1) (hquiet : Quiet t) (hw : w' = w) :
      Accounted place i name target w t exit w'
  /-- The exit status, the transcript and the databases belong together. -/
  | prepared {t₀ : List (Exchange Request Answer)} {c : Config} {p : Platform}
      {now : Time.DateTime} (hprepare : i.prepare.Transcript (Replies place) w t₀ (.ok (c, p)) w)
      (ht : t₀ <+: t) (hnow : (⟨.clock, now⟩ : Exchange Request Answer) ∈ t)
      (h : Agreement place c (.new p now) name target w t exit w') :
      Accounted place i name target w t exit w'

/-- Whatever the surroundings of a command that shuts a module down or starts it up, its exit
status, the lines it prints, the services it calls and the databases it leaves belong together. -/
theorem accounted_of_transcript {configPath : Option String} {verbose : Bool} {name : String}
    {target : AdminStatus} {exit : Nat}
    (h : (Invocation.main ⟨configPath, verbose, changeOf target name⟩).Transcript (Replies place)
      w t exit w') :
    Accounted place ⟨configPath, verbose, changeOf target name⟩ name target w t exit w' := by
  obtain ⟨r, t₁, w₁, t₂, hrun, hexit, rfl⟩ := Program.transcript_bind_iff.1 h
  obtain ⟨rfl, hquiet₂, rfl⟩ := transcript_exitStatusOf hexit
  rw [Invocation.run_eq] at hrun
  rcases Attempt.transcript_bind_iff.1 hrun with
    ⟨e, hprepare, rfl⟩ | ⟨⟨c, p⟩, t₀, w₀, t₃, hprepare, hset, rfl⟩
  · obtain ⟨hquiet₁, rfl⟩ := quiet_of_prepares (asks_prepare _) hprepare
    exact .unprepared hprepare (List.prefix_append _ _)
      (hprepare.value_of_yields (raises_prepare _) e rfl) (hquiet₁.append hquiet₂) rfl
  · obtain ⟨hquiet₀, rfl⟩ := quiet_of_prepares (asks_prepare _) hprepare
    change ((changeOf target name).run c p).Transcript (Replies place) _ _ _ _ at hset
    rw [run_changeOf] at hset
    obtain ⟨now, hnow, hchanged⟩ := changed_of_transcript hset
    rw [List.append_assoc]
    exact .prepared hprepare (List.prefix_append _ _)
      (List.mem_append_right _ (List.mem_append_left _ hnow))
      (hchanged.append hquiet₀ hquiet₂).agreement

/-- CONFIG_DB where nothing is configured. -/
def usualConfigDb : Address := (Config.usual none).address .config

/-- A line card of a standard chassis is shut down on a machine without any files. -/
def lineCardDown : List (Exchange Request Answer) :=
  [⟨.environment homeName, none⟩, ⟨.file (.read Config.usualPath), .error .notFound⟩,
    ⟨.environment platformName, none⟩,
    ⟨.file (.read Config.usualPlatform.machineConf), .error .notFound⟩,
    ⟨.connect usualConfigDb, .ok ()⟩, ⟨.clock, Time.DateTime.ofUnix 0⟩,
    ⟨.store usualConfigDb (.getEntry Module.table "LINE-CARD0"), .ok none⟩,
    ⟨.store usualConfigDb (.setEntry Module.table "LINE-CARD0" (Guard.plainRecord .down)), .ok ()⟩,
    ⟨.print "Shutting down chassis module LINE-CARD0", ()⟩]

theorem transcript_lineCardDown :
    (Invocation.main ⟨none, false, changeOf .down "LINE-CARD0"⟩).Transcript (Replies id)
      (fun _ => Memory.empty) lineCardDown 0
      (Function.update (fun _ => Memory.empty) usualConfigDb
        (Memory.empty.put Module.table "LINE-CARD0" (Guard.plainRecord .down))) := by
  refine .ask rfl (.ask rfl (.ask rfl (.ask rfl (.ask ⟨rfl, rfl⟩ (.ask rfl ?_)))))
  have hread : Replies id (.store usualConfigDb (.getEntry Module.table "LINE-CARD0"))
      (fun _ => Memory.empty) (.ok none) (fun _ => Memory.empty) :=
    ⟨_, .answered _ _, (Function.update_eq_self _ _).symm⟩
  exact .ask hread (.ask ⟨_, .answered _ _, rfl⟩ (.ask rfl (.done _ _)))

theorem accounted_lineCardDown :
    (Invocation.main ⟨none, false, changeOf .down "LINE-CARD0"⟩).Transcript (Replies id)
      (fun _ => Memory.empty) lineCardDown 0
      (Function.update (fun _ => Memory.empty) usualConfigDb
        (Memory.empty.put Module.table "LINE-CARD0" (Guard.plainRecord .down))) ∧
    Accounted id ⟨none, false, changeOf .down "LINE-CARD0"⟩ "LINE-CARD0" .down
      (fun _ => Memory.empty) lineCardDown 0
      (Function.update (fun _ => Memory.empty) usualConfigDb
        (Memory.empty.put Module.table "LINE-CARD0" (Guard.plainRecord .down))) :=
  ⟨transcript_lineCardDown, accounted_of_transcript transcript_lineCardDown⟩

end ChassisAdmin.CommandLine
