import ChassisAdmin.Proofs.Fabric.Course
import ChassisAdmin.Proofs.Fabric.Failures
import ChassisAdmin.Proofs.Fabric.Recovery
import ChassisAdmin.Proofs.Guard.Operation

/-!
# The reconciler sees what the guard wrote

The guard writes a status in three shapes: as a record of a change that starts, as
a record with nothing but the status, and by deleting the record where the status
is the default of the platform.  Whatever the record of the module was before, the
guard reads each of them back as the status that was asked for
(`Guard.Requested.adminStatusOf`).

So a reconciler that reads CONFIG_DB through the same guard sees the status at its
first reading, if nobody else writes CONFIG_DB in between (`Undisturbed`).  Its
wait is one exchange then, in which no time passes
(`transcript_awaitStatus_of_seen`).  Nothing else in a command pauses, and nothing
else fails for want of time.  Hence `seen_at_once`: no command waits, and none
fails because it waited too long, however little time is allowed.
-/

namespace ChassisAdmin

open Store (Memory)
open ChassisAdmin.Module (recordIn)

namespace Fabric

variable {α β : Type} {m m' : Memory} {t : List (Exchange Request Answer)}

/-- Replies where nobody else writes CONFIG_DB and the reconciler sees it as it is.  A call on it
may be refused, and nothing is known of any other reply. -/
def Undisturbed : (q : Request) → Memory → Answer q → Memory → Prop
  | .config c, m, r, m' => Store.Reply (fun _ => True) c m r m'
  | .observed c, m, r, m' => Store.Reply (fun _ => True) c m r m'
  | .chassisState _, m, _, m' | .service _, m, _, m' | .pause _, m, _, m' => m' = m

/-- A run that did not pause, and did not fail because it waited too long. -/
structure Unwaited (t : List (Exchange Request Answer)) (r : Except ChassisError α) : Prop where
  no_pause : ∀ x ∈ t, ∀ time, x.request ≠ .pause time
  not_late : ∀ card expected waited, r ≠ .error (.pollTimeout card expected waited)

/-- The request is no pause. -/
abbrev NoPause (q : Request) : Prop := ∀ time, q ≠ .pause time

/-- The failure is no lack of time. -/
abbrev NotLate (e : ChassisError) : Prop :=
  ∀ card expected waited, e ≠ .pollTimeout card expected waited

theorem unwaited_of_asks {σ : Type} {reply : (q : Request) → σ → Answer q → σ → Prop} {s s' : σ}
    {p : Step α} {r : Except ChassisError α} (hasks : p.Asks NoPause) (hraises : p.Raises NotLate)
    (h : p.Transcript reply s t r s') : Unwaited t r where
  no_pause := h.request_of_asks hasks
  not_late card expected waited hr := h.value_of_yields hraises _ hr card expected waited rfl

theorem unwaited_bind {σ : Type} {reply : (q : Request) → σ → Answer q → σ → Prop} {s s' : σ}
    {p : Step α} {f : α → Step β} {r : Except ChassisError β}
    (h : (p >>= f).Transcript reply s t r s')
    (hp : ∀ t₁ r₁ s₁, p.Transcript reply s t₁ r₁ s₁ → Unwaited t₁ r₁)
    (hf : ∀ t₁ a s₁, p.Transcript reply s t₁ (.ok a) s₁ →
      ∀ t₂, (f a).Transcript reply s₁ t₂ r s' → Unwaited t₂ r) : Unwaited t r := by
  rcases Attempt.transcript_bind_iff.1 h with ⟨e, he, rfl⟩ | ⟨a, t₁, s₁, t₂, ha, hrest, rfl⟩
  · obtain ⟨hpause, hlate⟩ := hp t _ s' he
    exact ⟨hpause, fun card expected waited hr => hlate card expected waited (by cases hr; rfl)⟩
  · obtain ⟨hpause₁, -⟩ := hp t₁ _ s₁ ha
    obtain ⟨hpause₂, hlate⟩ := hf t₁ a s₁ ha t₂ hrest
    exact ⟨fun x hx => (List.mem_append.1 hx).elim (hpause₁ x) (hpause₂ x), hlate⟩

/-! ## Waiting for a status that is there -/

theorem raises_notLate_system (p : Attempt Request Answer SystemError α) :
    (p.mapError ChassisError.system).Raises NotLate :=
  Attempt.raises_mapError_of_forall (fun _ _ _ _ h => nomatch h) p

/-- A reading of a status that is there says it, or is refused. -/
theorem transcript_currentAdminStatus_of_seen {g : Guard} {name : String} {target : AdminStatus}
    {r : Except ChassisError AdminStatus} (hseen : g.adminStatusOf (recordIn m name) = target)
    (h : (onObserved (g.currentAdminStatus name)).Transcript Undisturbed m t r m') :
    m' = m ∧ (∃ a, t = [⟨.observed (.getEntry Module.table name), a⟩]) ∧
      (r = .ok target ∨ ∃ e, r = .error (.system e)) := by
  rw [onObserved_currentAdminStatus] at h
  obtain ⟨a, hreply, rfl, rfl⟩ := Attempt.transcript_request_iff.1 h
  cases hreply with
  | answered => exact ⟨rfl, ⟨_, rfl⟩, .inl (congrArg Except.ok hseen)⟩
  | refused => exact ⟨rfl, ⟨_, rfl⟩, .inr ⟨_, rfl⟩⟩

/-- A status that is there is read once. -/
theorem transcript_awaitStatus_of_seen {r : Reconciler} {name : String} {target : AdminStatus}
    {elapsed : Nat} {result : Except ChassisError Bool}
    (hseen : r.guard.adminStatusOf (recordIn m name) = target)
    (h : (awaitStatus r name target elapsed).Transcript Undisturbed m t result m') :
    m' = m ∧ (∃ a, t = [⟨.observed (.getEntry Module.table name), a⟩]) ∧
      (result = .ok false ∨ ∃ e, result = .error (.system e)) := by
  rw [awaitStatus] at h
  rcases Attempt.transcript_bind_iff.1 h with ⟨e, he, rfl⟩ | ⟨a, t₁, m₁, t₂, ha, hrest, rfl⟩
  · obtain ⟨rfl, ht, hr | ⟨_, hr⟩⟩ := transcript_currentAdminStatus_of_seen hseen he
    · cases hr
    · obtain rfl := Except.error.inj hr
      exact ⟨rfl, ht, .inr ⟨_, rfl⟩⟩
  · obtain ⟨rfl, ht, hr | ⟨_, hr⟩⟩ := transcript_currentAdminStatus_of_seen hseen ha
    · obtain rfl := Except.ok.inj hr
      rw [if_pos rfl] at hrest
      obtain ⟨rfl, rfl, rfl⟩ := Attempt.transcript_pure_iff.1 hrest
      exact ⟨rfl, by rwa [List.append_nil], .inl rfl⟩
    · cases hr

theorem unwaited_lookUp {r : Reconciler} {module : ModuleName} {target : AdminStatus}
    {result : Except ChassisError (List Nat)}
    (hseen : r.guard.adminStatusOf (recordIn m module.name) = target)
    (h : (lookUp r module target).Transcript Undisturbed m t result m') : Unwaited t result := by
  refine unwaited_bind h ?_ ?_
  · intro t₁ r₁ m₁ h₁
    obtain ⟨-, ⟨a, rfl⟩, hr⟩ := transcript_awaitStatus_of_seen hseen h₁
    refine ⟨fun x hx time hpause => ?_, fun card expected waited hlate => ?_⟩
    · obtain rfl := List.mem_singleton.1 hx
      cases hpause
    · rcases hr with rfl | ⟨e, rfl⟩
      · cases hlate
      · cases hlate
  · intro t₁ late m₁ h₁ t₂ h₂
    obtain ⟨-, -, hr | ⟨_, hr⟩⟩ := transcript_awaitStatus_of_seen hseen h₁
    · obtain rfl := Except.ok.inj hr
      have hasks : (onChassisState (binding module.name)).Asks NoPause :=
        asks_onChassisState (asks_binding _) fun _ _ _ hq => nomatch hq
      exact unwaited_of_asks hasks (raises_notLate_system _) h₂
    · cases hr

theorem asks_onConfig {P : Request → Prop} (h : ∀ c, P (.config c)) (p : Store.Client α) :
    (onConfig p).Asks P :=
  Attempt.asks_mapError _ (Program.asks_interpret
    (Program.asks_of_forall (P := fun _ => True) (fun _ => trivial) p.run)
    fun c _ => ⟨h c, fun _ => trivial⟩)

theorem asks_carryOut_noPause (card : String) (target : AdminStatus) (asics : List Nat) :
    (carryOut card target asics).Asks NoPause := by
  refine asks_carryOut (fun task _ time hq => ?_) card
  cases task with
  | stop | check | deleteRow | resetFailed | start => cases hq

theorem unwaited_reconcile {r : Reconciler} {module : ModuleName} {target : AdminStatus}
    {result : Except ChassisError Outcome}
    (hseen : r.guard.adminStatusOf (recordIn m module.name) = target)
    (h : (reconcile r module target).Transcript Undisturbed m t result m') :
    Unwaited t result := by
  rw [reconcile_eq_lookUp_bind] at h
  refine unwaited_bind h (fun _ _ _ => unwaited_lookUp hseen) ?_
  intro t₁ asics m₁ _ t₂ h₂
  refine unwaited_of_asks (asks_carryOut_noPause _ _ _) (raises_carryOut ?_ _ _) h₂
  rintro task a e hverdict card expected waited rfl
  exact verdict_ne_pollTimeout hverdict

end Fabric

/-! ## Commands -/

namespace Chassis

open Fabric (Plant Undisturbed Unwaited)

variable {c : Chassis} {module : ModuleName} {target : AdminStatus} {m m' : Memory}
  {t : List (Exchange Fabric.Request Fabric.Answer)}

/-- What is reported on a request is what the guard did with it. -/
theorem requested_of_transcript {report : TransitionReport}
    (h : (Fabric.onConfig (c.request module target)).Transcript Undisturbed m t (.ok report) m') :
    ∃ o, report = ⟨module, target, o, none⟩ ∧
      Guard.Requested (fun _ => True) c.guard module.name target m (.ok o) m' := by
  obtain ⟨r, hr, hreport⟩ := Attempt.transcript_mapError_iff.1 h
  obtain ⟨t₀, ht, rfl⟩ := Program.exists_transcript_of_interpret hr
  obtain ⟨r', hends, rfl⟩ := Guard.exists_ends_of_wrapped (Store.ends_of_transcript ht)
  cases r' with
  | ok o => exact ⟨o, Except.ok.inj hreport, Guard.requested_of_ends hends⟩
  | error e => cases hreport

theorem unwaited_reconcileFabric {report : TransitionReport}
    {r : Except ChassisError TransitionReport}
    (hguard : ∀ r, c.fabric = some r → r.guard = c.guard)
    (hseen : report.outcome.isApplied = true →
      c.guard.adminStatusOf (recordIn m report.module.name) = report.target)
    (h : (c.reconcileFabric report).Transcript Undisturbed m t r m') : Unwaited t r := by
  unfold reconcileFabric at h
  split at h
  · exact Fabric.unwaited_of_asks (Attempt.asks_pure _) (Attempt.raises_pure _) h
  · next happlied =>
    split at h
    · refine Fabric.unwaited_of_asks (Attempt.asks_throw _) (Attempt.raises_throw ?_) h
      intro card expected waited he
      cases he
    · next reconciler hfabric =>
      have ho : report.outcome.isApplied = true := by
        cases ho : report.outcome.isApplied with
        | true => rfl
        | false => exact absurd (by rw [ho]; rfl) happlied
      rw [← hguard reconciler hfabric] at hseen
      refine Fabric.unwaited_bind h (fun _ _ _ => Fabric.unwaited_reconcile (hseen ho)) ?_
      intro _ outcome _ _ _ hpure
      exact Fabric.unwaited_of_asks (Attempt.asks_pure _) (Attempt.raises_pure _) hpure

/-- A command on a chassis whose reconciler reads the status through its own guard. -/
theorem unwaited_transition (platform : Platform) (g : Guard) (pollTimeout : Nat)
    {r : Except ChassisError TransitionReport}
    (h : ((equipped platform g pollTimeout).transition module target).Transcript Undisturbed m t r
      m') : Unwaited t r := by
  refine Fabric.unwaited_bind h ?_ ?_
  · intro t₁ r₁ m₁ hrequest
    refine Fabric.unwaited_of_asks ?_ (Fabric.raises_notLate_system _) hrequest
    exact Fabric.asks_onConfig (fun _ _ hq => nomatch hq) _
  · intro t₁ report m₁ hrequest t₂ hrest
    obtain ⟨o, rfl, hrequested⟩ := requested_of_transcript hrequest
    refine unwaited_reconcileFabric (fun r hr => ?_) (fun ho => ?_) hrest
    · obtain rfl := Option.some.inj hr
      rfl
    · refine hrequested.adminStatusOf ?_
      rintro rfl
      cases ho

/-- Unless another change was under way, a module has the status that was asked for as soon as the
guard has answered, whatever its record was before.  So no shutdown and no startup waits for it, and
none fails for want of time, even if none is allowed. -/
theorem seen_at_once (platform : Platform) (g : Guard) (pollTimeout : Nat) (module : ModuleName)
    (target : AdminStatus) :
    (∀ mayFail m o m', Store.Client.Ends mayFail (g.requestTransition module target) m (.ok o) m' →
      o ≠ .rejectedDuplicateInProgress →
      (g.currentAdminStatus module.name).onMemory m' = (.ok target, m')) ∧
    ∀ m t r m', ((equipped platform g pollTimeout).transition module target).Transcript Undisturbed
      m t r m' → Unwaited t r := by
  refine ⟨fun mayFail m o m' h ho => ?_, fun m t r m' => unwaited_transition platform g pollTimeout⟩
  have hstatus := (Guard.requested_of_ends h).adminStatusOf ho
  change (Except.ok (g.adminStatusOf (recordIn m' module.name)), m') = _
  rw [hstatus]

/-- A chassis with a bound ASIC whose fabric card has a record with two states, the first of them
unknown. -/
def twoStates : Plant where
  config := Memory.empty.seed [(Module.table, "FABRIC-CARD0",
    [(Module.adminStatusField, "off"), (Module.adminStatusField, "down")])]
  chassisState := oneBound.chassisState
  running := oneBound.running

/-- Carries out every request.  The reconciler sees CONFIG_DB as it is. -/
def answerAlone : (q : Fabric.Request) → Plant → Fabric.Answer q × Plant
  | .observed c, w =>
      ((Memory.answer c w.config).1, { w with config := (Memory.answer c w.config).2 })
  | q, w => Plant.answer q w

theorem undisturbed_answerAlone (q : Fabric.Request) (w : Plant) :
    Undisturbed q w.config (answerAlone q w).1 (answerAlone q w).2.config := by
  cases q with
  | config c | observed c => exact .answered c w.config
  | service c =>
    cases c with
    | start | stop | resetFailed | isActive => rfl
  | chassisState | pause => rfl

/-- The commands on that chassis where no time is allowed. -/
def withoutTime : Chassis := equipped .standard standardNow.guard 0

/-- The chassis after the shutdown of its card. -/
def twoStatesDown : Plant where
  config := Module.withRecord twoStates.config "FABRIC-CARD0" (Guard.plainRecord .down)
  chassisState := (Memory.answer (.delete (Fabric.rowRawKey 0)) oneBound.chassisState).2
  running := [Service.unitOfAsic 0]

theorem runWith_shutdown_twoStates :
    (withoutTime.shutdown card0).runWith answerAlone twoStates =
      (.ok ⟨card0, .down, .applied, some (.restarted [0])⟩, twoStatesDown) := by
  let w : Plant := { twoStatesDown with
    chassisState := oneBound.chassisState, running := oneBound.running }
  have hrequest : Attempt.runWith answerAlone
      (Fabric.onConfig (withoutTime.request card0 .down)) twoStates =
        (.ok ⟨card0, .down, .applied, none⟩, w) := rfl
  have hread : Attempt.runWith answerAlone
      (Fabric.onObserved (withoutTime.guard.currentAdminStatus card0.name)) w =
        (.ok .down, w) := rfl
  have hawait := Fabric.runWith_awaitStatus (r := ⟨withoutTime.guard, 0⟩) hread 0
  have hreconcile : Attempt.runWith answerAlone
      (Fabric.reconcile ⟨withoutTime.guard, 0⟩ card0 .down) w =
        (.ok (.restarted [0]), twoStatesDown) := by
    rw [Fabric.reconcile_eq, Attempt.runWith_bind_ok hawait]
    rfl
  rw [shutdown, transition, Attempt.runWith_bind_ok hrequest]
  exact Attempt.runWith_bind_ok hreconcile _

/-- The card is down at once, and its shutdown does not wait. -/
theorem seen_at_once_twoStates :
    (withoutTime.guard.currentAdminStatus card0.name).onMemory twoStatesDown.config =
        (.ok .down, twoStatesDown.config) ∧
      ∃ t, (withoutTime.transition card0 .down).Transcript Undisturbed twoStates.config t
          (.ok ⟨card0, .down, .applied, some (.restarted [0])⟩) twoStatesDown.config ∧
        ∀ x ∈ t, ∀ time, x.request ≠ .pause time := by
  obtain ⟨hseen, hwait⟩ := seen_at_once .standard standardNow.guard 0 card0 .down
  have hup : standardNow.guard.adminStatusOf (recordIn twoStates.config card0.name) ≠ .down := by
    decide
  have hends : Store.Client.Ends (fun _ => False)
      (standardNow.guard.requestTransition card0 .down) twoStates.config (.ok .applied)
      twoStatesDown.config :=
    (Store.Client.ends_onMemory_iff fun _ h => h).2 (Guard.onMemory_of_standard rfl hup)
  obtain ⟨t, ht⟩ := Program.exists_transcript_run answerAlone
    (withoutTime.shutdown card0).run twoStates
  have hrun := runWith_shutdown_twoStates
  unfold Attempt.runWith at hrun
  rw [hrun] at ht
  have hreply : ∀ q w r w', Program.handled answerAlone q w r w' →
      Undisturbed q w.config r w'.config := by
    intro q w r w' (hr : answerAlone q w = (r, w'))
    have := undisturbed_answerAlone q w
    rwa [hr] at this
  have halone := ht.mono Plant.config hreply
  exact ⟨hseen _ _ _ _ hends nofun, t, halone, (hwait _ _ _ _ halone).no_pause⟩

end Chassis

end ChassisAdmin
