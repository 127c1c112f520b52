import ChassisAdmin.Proofs.CommandLine.Surroundings
import ChassisAdmin.Proofs.Fabric.Binding
import ChassisAdmin.Proofs.Fabric.Failures
import ChassisAdmin.Proofs.Guard.Request

/-!
# Reconciling within a command

A command that changes a module's status reconciles the services of a fabric card
after the guard has written CONFIG_DB.  That prints nothing, and of the databases
it changes only CHASSIS_STATE_DB, from which it deletes rows of ASICs
(`spared_of_transcript`).  Where CONFIG_DB is kept in the same place the records
of modules are still spared, since their keys differ from those of the rows.

If it fails the exit status is 1 (`exitStatus_of_reconcileFabric`).
-/

namespace ChassisAdmin

open Store (Address Memory)

/-! ## What reconciling does to the databases -/

namespace Store

theorem eq_of_reply_of_reads {mayFail : Call → Prop} {c : Call} {m m' : Memory} {r : Answer c}
    (h : Reply mayFail c m r m') (hc : Fabric.Reads c) : m' = m := by
  cases c with
  | getEntry | keys | hget =>
    cases h with
    | answered | refused => rfl
  | setEntry | delete => exact hc.elim

end Store

theorem Fabric.rowRawKey_ne_recordKey (asic : Nat) (name : String) :
    rowRawKey asic ≠ Module.recordKey name := by
  intro h
  have hchars := congrArg (·.toList[8]?) h
  simp [toList_rowRawKey, Module.recordKey, Module.table, Store.rawKey, Store.separator] at hchars

namespace CommandLine

variable {ι : Type} {place : Address → ι} {w w' : ι → Memory} {t : List (Exchange Request Answer)}
  {c : Config}

/-- A request that is made to reconcile the services of a card. -/
def Request.Reconciles (c : Config) : Request → Prop
  | .store a call =>
      (a = c.address .config ∧ Fabric.Reads call) ∨
        (a = c.address .chassisState ∧
          (Fabric.Reads call ∨ ∃ asic, call = .delete (Fabric.rowRawKey asic)))
  | .service _ | .pause _ => True
  | .file _ | .environment _ | .clock | .connect _ | .shell _ | .execute .. | .print _
  | .complain _ => False

/-- The databases are as before but for CHASSIS_STATE_DB, and so are the records of modules even
if CONFIG_DB is kept in the same place. -/
structure Spared (place : Address → ι) (c : Config) (w w' : ι → Memory) : Prop where
  elsewhere : ∀ i, i ≠ place (c.address .chassisState) → w' i = w i
  modules : ∀ name, Module.recordIn (w' (place (c.address .config))) name =
    Module.recordIn (w (place (c.address .config))) name

theorem Spared.refl (w : ι → Memory) : Spared place c w w := ⟨fun _ _ => rfl, fun _ => rfl⟩

theorem Spared.trans {w'' : ι → Memory} (h : Spared place c w w') (h' : Spared place c w' w'') :
    Spared place c w w'' :=
  ⟨fun i hi => (h'.elsewhere i hi).trans (h.elsewhere i hi),
    fun name => (h'.modules name).trans (h.modules name)⟩

variable [DecidableEq ι]

/-- Deleting the row of an ASIC shows in no record of a module. -/
theorem recordIn_of_reply_delete {m m' : Memory} {asic : Nat}
    {r : Store.Answer (.delete (Fabric.rowRawKey asic))}
    (h : Store.Reply (fun _ => True) (.delete (Fabric.rowRawKey asic)) m r m') (name : String) :
    Module.recordIn m' name = Module.recordIn m name := by
  cases h with
  | answered =>
    refine congrArg (Option.bind · Memory.nonempty) ((Keyed.get?_erase _ _ _).trans ?_)
    exact if_neg (Fabric.rowRawKey_ne_recordKey asic name)
  | refused => rfl

theorem spared_of_replies {q : Request} {r : Answer q} (h : Replies place q w r w')
    (hq : q.Reconciles c) : Spared place c w w' := by
  cases q with
  | service | pause =>
    obtain rfl : w' = w := h
    exact .refl w'
  | file | environment | clock | connect | shell | execute | print | complain => exact hq.elim
  | store a call =>
    obtain ⟨m, hreply, rfl⟩ := h
    have hreads : Fabric.Reads call → Spared place c w (Function.update w (place a) m) := by
      intro hread
      rw [Store.eq_of_reply_of_reads hreply hread, Function.update_eq_self]
      exact .refl w
    rcases hq with ⟨-, hread⟩ | ⟨rfl, hread | ⟨asic, rfl⟩⟩
    · exact hreads hread
    · exact hreads hread
    · refine ⟨fun i hi => Function.update_of_ne hi _ _, fun name => ?_⟩
      -- The two databases may be one, and then the deleted row was among the records of modules.
      by_cases hplace : place (c.address .config) = place (c.address .chassisState)
      · rw [hplace, Function.update_self]
        exact recordIn_of_reply_delete hreply name
      · rw [Function.update_of_ne hplace]

theorem asks_reconcileFabric (c : Config) (chassis : Chassis) (report : TransitionReport) :
    (onModules c (chassis.reconcileFabric report)).Asks (Request.Reconciles c) := by
  have hobserved : ∀ call, Fabric.Reads call →
      (askForModules c (.observed call)).Asks (Request.Reconciles c) :=
    fun _ hread => ⟨Or.inl ⟨rfl, hread⟩, fun _ => trivial⟩
  have hlooked : ∀ call, Fabric.Reads call →
      (askForModules c (.chassisState call)).Asks (Request.Reconciles c) :=
    fun _ hread => ⟨Or.inr ⟨rfl, .inl hread⟩, fun _ => trivial⟩
  have hpaused : ∀ time, (askForModules c (.pause time)).Asks (Request.Reconciles c) :=
    fun _ => ⟨trivial, fun _ => trivial⟩
  have htask : ∀ task : Fabric.Task,
      (askForModules c task.request).Asks (Request.Reconciles c) := by
    intro task
    cases task with
    | deleteRow asic => exact ⟨Or.inr ⟨rfl, .inr ⟨asic, rfl⟩⟩, fun _ => trivial⟩
    | stop | check | resetFailed | start => exact ⟨trivial, fun _ => trivial⟩
  -- A request of the reconciler is judged by what is asked for it.
  refine Attempt.asks_mapError _ (Program.asks_interpret
    (Q := fun q => (askForModules c q).Asks (Request.Reconciles c)) ?_ fun _ hq => hq)
  change (chassis.reconcileFabric report).Asks _
  unfold Chassis.reconcileFabric
  split
  · exact Attempt.asks_pure _
  · split
    · exact Attempt.asks_throw _
    · refine Attempt.asks_bind ?_ fun _ => Attempt.asks_pure _
      rw [Fabric.reconcile_eq_lookUp_bind]
      exact Attempt.asks_bind (Fabric.asks_lookUp hobserved hpaused hlooked _ _ _)
        fun asics => Fabric.asks_carryOut (fun task _ => htask task) _

/-- Reconciling prints nothing and spares all databases but CHASSIS_STATE_DB. -/
theorem spared_of_transcript {chassis : Chassis} {report : TransitionReport}
    {r : Except Failure TransitionReport}
    (h : (onModules c (chassis.reconcileFabric report)).Transcript (Replies place) w t r w') :
    printed t = [] ∧ Spared place c w w' := by
  have hrequest := h.request_of_asks (asks_reconcileFabric c chassis report)
  refine ⟨printed_eq_nil fun x hx => ?_, ?_⟩
  · have hq := hrequest x hx
    generalize x.request = q at hq
    cases q with
    | store | service | pause => rfl
    | file | environment | clock | connect | shell | execute | print | complain => exact hq.elim
  · refine h.invariant (P := fun s => Spared place c w s) ?_ (.refl w)
    exact fun x hx s s' hr hs => hs.trans (spared_of_replies hr (hrequest x hx))

/-- A reconciliation that fails makes the exit status 1. -/
theorem exitStatus_of_reconcileFabric {chassis : Chassis} {report : TransitionReport} {e : Failure}
    (h : (onModules c (chassis.reconcileFabric report)).Transcript (Replies place) w t (.error e)
      w') : e.exitStatus = 1 := by
  have hraises : (onModules c (chassis.reconcileFabric report)).Raises (·.exitStatus = 1) := by
    refine Attempt.raises_mapError (E := Fabric.NotUsage)
      (Program.yields_interpret (chassis.raises_reconcileFabric report) _) fun e he => ?_
    exact if_neg (by rw [he]; decide)
  exact h.value_of_yields hraises e rfl

end CommandLine

end ChassisAdmin
