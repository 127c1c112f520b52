import ChassisAdmin.Proofs.Fabric.Removal
import ChassisAdmin.Report
import Mathlib.Data.List.Forall2

/-!
# What is told of a reconciliation

The lines on a reconciliation are made afterwards, from its outcome.  A
reconciliation that succeeds has made the requests of its plan, no others that
act and none out of turn (`requests_of_transcript`), and the lines go by the same
plan.  So line by line they tell of the calls that stopped and started a service
(`told_of_transcript`).

The line on deleted rows stands for calls that delete, and these only remove what
stands under the keys made from the numbers of the ASICs.  If no row stands there,
because the rows that bind the ASICs have other keys, the line is told and no row
was deleted (`told_without_deletion`).
-/

namespace ChassisAdmin.Fabric

open Service (unitOfAsic)
open Store (Memory)

variable {m m' : Memory} {t t₁ t₂ : List (Exchange Request Answer)} {r : Reconciler}
  {module : ModuleName} {target : AdminStatus} {asics : List Nat} {outcome : Outcome}

/-! ## Lines and calls -/

/-- A line tells that the service of an ASIC was stopped or started, and a call did so. -/
def Tells (line : String) (call : Service.Call) : Prop :=
  (∃ asic, line = stopMessage asic ∧ call = .stop (unitOfAsic asic)) ∨
    ∃ asic, line = startMessage asic ∧ call = .start (unitOfAsic asic)

/-- The call of a request that stops or starts a service. -/
def changeOf? : Request → Option Service.Call
  | .service (.stop unit) => some (.stop unit)
  | .service (.start unit) => some (.start unit)
  | _ => none

/-- The calls of a transcript that stop or start a service, in order. -/
def changes (t : List (Exchange Request Answer)) : List Service.Call :=
  (t.map (·.request)).filterMap changeOf?

/-- Whether a request deletes what stands under a raw key of CHASSIS_STATE_DB. -/
def Request.deletes : Request → Bool
  | .chassisState (.delete _) => true
  | _ => false

/-- Rows that were there are gone. -/
def RowsDeleted (m m' : Memory) : Prop :=
  ∃ key, (m.records.get? key).isSome = true ∧ m'.records.get? key = none

/-- Lines tell of what a transcript did to services and rows. -/
structure Told (lines : List String) (t : List (Exchange Request Answer)) (m m' : Memory) : Prop where
  /-- Apart from the line on rows, they are one line for each call in the order of the calls. -/
  services : List.Forall₂ Tells (lines.filter (· ≠ deleteMessage)) (changes t)
  /-- The line on rows stands after the lines on stops and before those on starts. -/
  between : deleteMessage ∈ lines → ∃ asics asics',
    lines = List.map stopMessage asics ++ deleteMessage :: List.map startMessage asics'
  /-- It is told exactly if deletions were asked for. -/
  deletions : deleteMessage ∈ lines ↔ ∃ x ∈ t, x.request.deletes = true
  /-- Whenever rows were deleted, it is told. -/
  of_deleted : RowsDeleted m m' → deleteMessage ∈ lines

/-! ### Telling the lines apart -/

theorem stopMessage_ne_deleteMessage (asic : Nat) : stopMessage asic ≠ deleteMessage := by
  intro h
  have hfirst := congrArg (fun s : String => s.toList.head?) h
  simp [stopMessage, deleteMessage] at hfirst

theorem startMessage_ne_deleteMessage (asic : Nat) : startMessage asic ≠ deleteMessage := by
  intro h
  have hfirst := congrArg (fun s : String => s.toList.head?) h
  simp [startMessage, deleteMessage] at hfirst

theorem stopMessage_ne_startMessage (n k : Nat) : stopMessage n ≠ startMessage k := by
  intro h
  have hthird := congrArg (fun s : String => s.toList[2]?) h
  simp [stopMessage, startMessage] at hthird

theorem stopMessage_injective {n k : Nat} (h : stopMessage n = stopMessage k) : n = k :=
  Text.eq_of_decimal_between h

theorem startMessage_injective {n k : Nat} (h : startMessage n = startMessage k) : n = k :=
  Text.eq_of_decimal_between h

/-- A line tells of one call only, and of a call one line only can tell. -/
theorem biUnique_tells : Relator.BiUnique Tells := by
  constructor
  · rintro line call line' (⟨n, rfl, hn⟩ | ⟨n, rfl, hn⟩) (⟨k, rfl, hk⟩ | ⟨k, rfl, hk⟩)
    · rw [hn, Service.Call.stop.injEq] at hk
      rw [unitOfAsic_injective hk]
    · rw [hn] at hk
      cases hk
    · rw [hn] at hk
      cases hk
    · rw [hn, Service.Call.start.injEq] at hk
      rw [unitOfAsic_injective hk]
  · rintro line call call' (⟨n, hn, rfl⟩ | ⟨n, hn, rfl⟩) (⟨k, hk, rfl⟩ | ⟨k, hk, rfl⟩)
    · rw [stopMessage_injective (hn.symm.trans hk)]
    · exact absurd (hn.symm.trans hk) (stopMessage_ne_startMessage n k)
    · exact absurd (hk.symm.trans hn) (stopMessage_ne_startMessage k n)
    · rw [startMessage_injective (hn.symm.trans hk)]

/-! ## The lines of a plan -/

/-- The calls of the plan that stop or start a service. -/
def plannedChanges (target : AdminStatus) (asics : List Nat) : List Service.Call :=
  ((plan target asics).map Task.request).filterMap changeOf?

theorem plannedChanges_up (asics : List Nat) :
    plannedChanges .up asics = asics.map fun asic => .start (unitOfAsic asic) := by
  simp [plannedChanges, plan, Task.request, changeOf?, Function.comp_def]

theorem plannedChanges_down (asics : List Nat) : plannedChanges .down asics =
    (asics.map fun asic => .stop (unitOfAsic asic)) ++
      asics.map fun asic => .start (unitOfAsic asic) := by
  simp [plannedChanges, plan, Task.request, changeOf?, restart, List.filterMap_map,
    List.filterMap_flatMap, Function.comp_def, List.map_flatMap]
  exact List.map_eq_flatMap.symm

theorem forall₂_tells {message : Nat → String} {call : Nat → Service.Call}
    (h : ∀ asic, Tells (message asic) (call asic)) (asics : List Nat) :
    List.Forall₂ Tells (asics.map message) (asics.map call) := by
  rw [List.forall₂_map_left_iff, List.forall₂_map_right_iff, List.forall₂_same]
  exact fun asic _ => h asic

theorem filter_messages {message : Nat → String} (h : ∀ asic, message asic ≠ deleteMessage)
    (asics : List Nat) :
    (asics.map message).filter (· ≠ deleteMessage) = asics.map message := by
  refine List.filter_eq_self.2 fun line hline => ?_
  obtain ⟨asic, -, rfl⟩ := List.mem_map.1 hline
  exact decide_eq_true (h asic)

/-- The lines on services go by the plan. -/
theorem forall₂_tells_fabricMessages (target : AdminStatus) (asics : List Nat) :
    List.Forall₂ Tells ((fabricMessages (reconciled target asics)).filter (· ≠ deleteMessage))
      (plannedChanges target asics) := by
  have hstarts := forall₂_tells (fun asic => .inr ⟨asic, rfl, rfl⟩) asics
  cases target with
  | up =>
    rw [reconciled, fabricMessages, filter_messages startMessage_ne_deleteMessage,
      plannedChanges_up]
    exact hstarts
  | down =>
    have hdelete : (deleteMessage :: asics.map startMessage).filter (· ≠ deleteMessage) =
        asics.map startMessage :=
      (List.filter_cons_of_neg (by simp)).trans (filter_messages startMessage_ne_deleteMessage asics)
    rw [reconciled, fabricMessages, List.filter_append,
      filter_messages stopMessage_ne_deleteMessage, hdelete, plannedChanges_down]
    exact List.rel_append (forall₂_tells (fun asic => .inl ⟨asic, rfl, rfl⟩) asics) hstarts

theorem deleteMessage_mem_iff {target : AdminStatus} :
    deleteMessage ∈ fabricMessages (reconciled target asics) ↔ target = .down := by
  cases target with
  | up =>
    refine iff_of_false (fun h => ?_) (fun h => nomatch h)
    obtain ⟨asic, -, hline⟩ := List.mem_map.1 h
    exact startMessage_ne_deleteMessage asic hline
  | down => exact iff_of_true (List.mem_append_right _ List.mem_cons_self) rfl

/-- A plan deletes rows exactly if it is for a shutdown. -/
theorem exists_deletes_plan_iff (hne : asics ≠ []) :
    (∃ task ∈ plan target asics, task.request.deletes = true) ↔ target = .down := by
  cases target with
  | up =>
    refine iff_of_false ?_ (fun h => nomatch h)
    rintro ⟨task, htask, hdeletes⟩
    obtain ⟨asic, -, rfl⟩ := List.mem_map.1 htask
    cases hdeletes
  | down =>
    obtain ⟨asic, asics, rfl⟩ := List.exists_cons_of_ne_nil hne
    refine iff_of_true ⟨.deleteRow asic, ?_, rfl⟩ rfl
    simp [plan]

theorem deletedKeys_plan_up (asics : List Nat) : deletedKeys (plan .up asics) = [] := by
  simp [deletedKeys, plan, Task.deletedKey?, Function.comp_def]

/-! ## What was done -/

theorem not_deletes_of_not_acts {q : Request} (h : q.acts = false) : q.deletes = false := by
  cases q with
  | config | observed | service | pause => rfl
  | chassisState c =>
    cases c with
    | getEntry | setEntry | keys | hget => rfl
    | delete => cases h

/-- Only a request that acts deletes rows. -/
theorem exists_deletes_append_iff (h : ∀ x ∈ t₁, x.request.acts = false) :
    (∃ x ∈ t₁ ++ t₂, x.request.deletes = true) ↔ ∃ x ∈ t₂, x.request.deletes = true := by
  constructor
  · rintro ⟨x, hx, hdeletes⟩
    rcases List.mem_append.1 hx with hx | hx
    · rw [not_deletes_of_not_acts (h x hx)] at hdeletes
      cases hdeletes
    · exact ⟨x, hx, hdeletes⟩
  · rintro ⟨x, hx, hdeletes⟩
    exact ⟨x, List.mem_append_right _ hx, hdeletes⟩

theorem exists_deletes_iff_of_requests_eq {tasks : List Task}
    (h : t.map (·.request) = tasks.map Task.request) :
    (∃ task ∈ tasks, task.request.deletes = true) ↔ ∃ x ∈ t, x.request.deletes = true := by
  have hany := congrArg (List.any · Request.deletes) h
  simpa only [List.any_map, List.any_eq_true, Function.comp_apply, eq_iff_iff] using
    (Bool.eq_iff_iff.1 hany).symm

theorem changeOf?_of_not_acts {q : Request} (h : q.acts = false) : changeOf? q = none := by
  cases q with
  | config | observed | chassisState | pause => rfl
  | service => cases h

theorem changes_eq_nil (h : ∀ x ∈ t, x.request.acts = false) : changes t = [] := by
  refine List.filterMap_eq_nil_iff.2 fun q hq => ?_
  obtain ⟨x, hx, rfl⟩ := List.mem_map.1 hq
  exact changeOf?_of_not_acts (h x hx)

theorem not_rowsDeleted_refl (m : Memory) : ¬RowsDeleted m m := by
  rintro ⟨key, hsome, hnone⟩
  rw [hnone] at hsome
  cases hsome

/-- Where nothing was done nothing is told. -/
theorem told_nil (h : ∀ x ∈ t, x.request.acts = false) : Told [] t m m := by
  constructor
  case services => rw [changes_eq_nil h]; exact .nil
  case between => exact fun h => nomatch h
  case deletions =>
    refine iff_of_false List.not_mem_nil ?_
    rintro ⟨x, hx, hdeletes⟩
    rw [not_deletes_of_not_acts (h x hx)] at hdeletes
    cases hdeletes
  case of_deleted => exact fun h => absurd h (not_rowsDeleted_refl m)

/-- Rows were deleted by a plan if it was for a shutdown and a row stood under the key of one of
the numbers. -/
theorem rowsDeleted_iff {card : String}
    (h : (inTurn card (plan target asics)).Transcript Replies m t (.ok ()) m') :
    RowsDeleted m m' ↔
      target = .down ∧ ∃ asic ∈ asics, (m.records.get? (rowRawKey asic)).isSome = true := by
  have hkey (key : String) := removed_iff_of_get?_eq (get?_of_transcript_inTurn h key)
  rw [RowsDeleted]
  cases target with
  | up =>
    refine iff_of_false ?_ (fun h => nomatch h.1)
    rintro ⟨key, hgone⟩
    have hdeleted := ((hkey key).1 hgone).2
    rw [deletedKeys_plan_up] at hdeleted
    cases hdeleted
  | down =>
    simp only [hkey, deletedKeys_plan_down, List.mem_map]
    constructor
    · rintro ⟨_, hsome, asic, hasic, rfl⟩
      exact ⟨trivial, asic, hasic, hsome⟩
    · rintro ⟨-, asic, hasic, hsome⟩
      exact ⟨_, hsome, asic, hasic, rfl⟩

theorem told_of_tasks {card : String} (hact : ∀ x ∈ t₁, x.request.acts = false) (hne : asics ≠ [])
    (h : (inTurn card (plan target asics)).Transcript Replies m t₂ (.ok ()) m') :
    Told (fabricMessages (reconciled target asics)) (t₁ ++ t₂) m m' := by
  have hdone := done_of_transcript h
  have hrequests := hdone.requests_eq (hdone.eq_ok_iff.1 rfl)
  have hchanges : changes (t₁ ++ t₂) = plannedChanges target asics := by
    have hquiet : changes t₁ = [] := changes_eq_nil hact
    rw [changes, List.map_append, List.filterMap_append, ← changes, hquiet, hrequests]
    rfl
  constructor
  case services => rw [hchanges]; exact forall₂_tells_fabricMessages target asics
  case between =>
    intro h
    obtain rfl := deleteMessage_mem_iff.1 h
    exact ⟨asics, asics, rfl⟩
  case deletions =>
    rw [deleteMessage_mem_iff, ← exists_deletes_plan_iff hne, exists_deletes_append_iff hact]
    exact exists_deletes_iff_of_requests_eq hrequests
  case of_deleted => exact fun h' => deleteMessage_mem_iff.2 ((rowsDeleted_iff h).1 h').1

/-! ## What is told -/

/-- Whenever a reconciliation succeeds, its lines tell of what it did.  The line on deleted rows
tells so truly where a row stands under the key made from the number of a bound ASIC, and only
there. -/
theorem told_of_transcript
    (h : (reconcile r module target).Transcript Replies m t (.ok outcome) m') :
    Relator.BiUnique Tells ∧ Told (fabricMessages outcome) t m m' ∧
    (outcome = .noAsics → fabricMessages outcome = [] ∧ ∀ x ∈ t, x.request.acts = false) ∧
    (deleteMessage ∈ fabricMessages outcome →
      (RowsDeleted m m' ↔ ∃ asic, (∃ key, Binds m module.name key asic) ∧
        (m.records.get? (rowRawKey asic)).isSome = true)) := by
  obtain ⟨asics, hb, -, hmem⟩ := exists_bound m module.name
  refine ⟨biUnique_tells, ?_⟩
  generalize hresult : Except.ok outcome = result at h
  cases course_of_transcript hb h with
  | late | failed => cases hresult
  | idle hact _ _ =>
    cases hresult
    exact ⟨told_nil hact, fun _ => ⟨rfl, hact⟩, fun h => nomatch h⟩
  | @begun t₀ t₁ ended _ hact _ hne htasks =>
    cases ended with
    | error e => cases hresult
    | ok =>
      cases hresult
      refine ⟨told_of_tasks hact hne htasks, fun h => ?_, fun hdelete => ?_⟩
      · cases target <;> cases h
      · simp only [rowsDeleted_iff htasks, deleteMessage_mem_iff.1 hdelete, true_and, hmem]

open Chassis (card0 standardReconciler)

/-- A card that is shut down, with two rows under the keys of their numbers. -/
def twoRows : Plant where
  config := shutDown
  chassisState := Memory.empty.seed
    [(table, "asic9", [(nameField, "FABRIC-CARD0")]), (table, "asic10", [(nameField, "FABRIC-CARD0")])]
  running := [unitOfAsic 9, unitOfAsic 10]

theorem bound_twoRows : Bound twoRows.chassisState card0.name [9, 10] := by
  unfold Bound
  rfl

theorem told_of_transcript_twoRows : ∃ t m',
    (reconcile standardReconciler card0 .down).Transcript Replies twoRows.chassisState t
      (.ok (.restarted [9, 10])) m' ∧
    Told ["Stop swss@9 and peer services", "Stop swss@10 and peer services",
      "Delete related CHASSIS_FABRIC_ASIC_TABLE entries", "Start swss@9 and peer services",
      "Start swss@10 and peer services"] t twoRows.chassisState m' ∧
    RowsDeleted twoRows.chassisState m' := by
  obtain ⟨w', hrun, -⟩ :=
    Plant.exists_run_reconcile adminStatusOf_shutDown bound_twoRows (List.cons_ne_nil _ _)
  obtain ⟨t, h⟩ := exists_transcript_of_runWith Plant.chassisState Plant.replies_answer hrun
  obtain ⟨-, htold, -, hdeleted⟩ := told_of_transcript h
  refine ⟨t, w'.chassisState, h, htold, (hdeleted (deleteMessage_mem_iff.2 rfl)).2 ?_⟩
  exact ⟨9, ⟨"CHASSIS_FABRIC_ASIC_TABLE|asic9", ⟨"|asic9".toList, rfl, by decide⟩, rfl, rfl⟩, rfl⟩

/-! ## A deletion that is told and did not happen -/

/-- A card that is shut down, whose only row has a zero in front of its number. -/
def loneZeroInFront : Plant where
  config := shutDown
  chassisState := Memory.empty.seed [(table, "asic03", [(nameField, "FABRIC-CARD0")])]
  running := [unitOfAsic 3]

theorem bound_loneZeroInFront : Bound loneZeroInFront.chassisState card0.name [3] := by
  unfold Bound
  rfl

theorem run_loneZeroInFront : ∃ w,
    loneZeroInFront.run (reconcile standardReconciler card0 .down) = (.ok (.restarted [3]), w) ∧
      w.chassisState.records = loneZeroInFront.chassisState.records := by
  rw [Plant.run_reconcile_eq adminStatusOf_shutDown bound_loneZeroInFront]
  exact ⟨_, rfl, rfl⟩

/-- The shutdown of a card succeeds and the line on deleted rows is told, and the database holds
what it held. -/
theorem told_without_deletion : ∃ w,
    loneZeroInFront.run (reconcile standardReconciler card0 .down) = (.ok (.restarted [3]), w) ∧
    deleteMessage ∈ fabricMessages (.restarted [3]) ∧
    cardOf? w.chassisState "CHASSIS_FABRIC_ASIC_TABLE|asic03" = some card0.name ∧
    ¬RowsDeleted loneZeroInFront.chassisState w.chassisState := by
  obtain ⟨w, hrun, hrecords⟩ := run_loneZeroInFront
  refine ⟨w, hrun, deleteMessage_mem_iff.2 rfl, ?_, ?_⟩
  · rw [cardOf?, hrecords]
    rfl
  · rintro ⟨key, hsome, hnone⟩
    rw [hrecords] at hnone
    rw [hnone] at hsome
    cases hsome

end ChassisAdmin.Fabric
