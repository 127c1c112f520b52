import ChassisAdmin.Proofs.Fabric.Course
import ChassisAdmin.Proofs.Fabric.Recovery

/-!
# The rows that a shutdown removes

The ASICs of a card are found by reading numbers off the keys of rows, and a
shutdown deletes rows under the keys that are made from these numbers.  What it
removes is exactly what stands under those keys
(`removal_of_transcript`).

Not every key that a number is read off is the key that is made from it.  A row
that binds an ASIC to the card under another key stays.  The row that stands
under the made key goes instead, also if it names another card
(`otherCard_removed`).  So the rows that go are the rows that bind exactly where
every row that binds stands under the key of its number.
-/

namespace ChassisAdmin.Fabric

open Store (Memory)

/-! ## Deletions -/

/-- The raw key that a task deletes. -/
def Task.deletedKey? : Task → Option String
  | deleteRow asic => some (rowRawKey asic)
  | stop _ | check _ | resetFailed _ | start _ => none

/-- The raw keys that tasks delete. -/
def deletedKeys (tasks : List Task) : List String := tasks.filterMap Task.deletedKey?

theorem deletedKeys_plan_down (asics : List Nat) :
    deletedKeys (plan .down asics) = asics.map rowRawKey := by
  simp [deletedKeys, plan, restart, List.filterMap_map, List.filterMap_flatMap, Function.comp_def,
    Task.deletedKey?]

variable {m m' : Memory} {t : List (Exchange Request Answer)} {card : String}

/-- A task that does not fail deletes what it is to delete and nothing else. -/
theorem get?_of_transcript_step {task : Task}
    (h : (task.step card).Transcript Replies m t (.ok ()) m') (key : String) :
    m'.records.get? key = if key ∈ deletedKeys [task] then none else m.records.get? key := by
  rw [Task.step_eq] at h
  obtain ⟨answer, hreply, hok, -⟩ := Attempt.transcript_request_iff.1 h
  cases task with
  | stop | check | resetFailed | start =>
    obtain rfl : m' = m := hreply
    rfl
  | deleteRow asic =>
    have hkey : key ∈ deletedKeys [.deleteRow asic] ↔ rowRawKey asic = key := by
      simp [deletedKeys, Task.deletedKey?, eq_comm]
    cases hreply with
    | answered =>
      simp only [hkey]
      exact Keyed.get?_erase m.records (rowRawKey asic) key
    | refused e => cases hok

/-- Tasks none of which fails delete what they are to delete and nothing else. -/
theorem get?_of_transcript_inTurn {tasks : List Task}
    (h : (inTurn card tasks).Transcript Replies m t (.ok ()) m') (key : String) :
    m'.records.get? key = if key ∈ deletedKeys tasks then none else m.records.get? key := by
  induction tasks generalizing m t with
  | nil =>
    obtain ⟨-, -, rfl⟩ := Attempt.transcript_pure_iff.1 h
    rfl
  | cons task tasks ih =>
    rcases Attempt.transcript_bind_iff.1 h with ⟨e, -, he⟩ | ⟨_, t₁, m₁, t₂, hstep, hrest, -⟩
    · cases he
    · rw [ih hrest, get?_of_transcript_step hstep]
      have hmem : key ∈ deletedKeys (task :: tasks) ↔
          key ∈ deletedKeys [task] ∨ key ∈ deletedKeys tasks := by
        simp [deletedKeys, or_and_right, exists_or]
      by_cases htasks : key ∈ deletedKeys tasks <;> by_cases htask : key ∈ deletedKeys [task] <;>
        simp [hmem, htasks, htask]

/-! ## What a shutdown removes -/

variable {r : Reconciler} {module : ModuleName} {asics asics' : List Nat}

/-- The rows that are gone are those that bind an ASIC to the card. -/
def RemovesBinding (m m' : Memory) (card : String) : Prop :=
  ∀ key, ((m.records.get? key).isSome = true ∧ m'.records.get? key = none) ↔
    ∃ asic, Binds m card key asic

/-- A shutdown that succeeds deletes what stands under the keys made from the numbers of the bound
ASICs, and nothing else. -/
theorem get?_of_restarted (hb : Bound m module.name asics)
    (h : (reconcile r module .down).Transcript Replies m t (.ok (.restarted asics')) m') :
    asics' = asics ∧ ∀ key, m'.records.get? key =
      if key ∈ asics.map rowRawKey then none else m.records.get? key := by
  generalize hresult : Except.ok (Outcome.restarted asics') = result at h
  cases course_of_transcript hb h with
  | late | failed | idle => cases hresult
  | @begun _ t₁ ended _ _ _ _ htasks =>
    cases ended with
    | error e => cases hresult
    | ok =>
      cases hresult
      refine ⟨rfl, fun key => ?_⟩
      rw [get?_of_transcript_inTurn htasks, deletedKeys_plan_down]

theorem removed_iff_of_get?_eq {key : String} {keys : List String}
    (h : m'.records.get? key = if key ∈ keys then none else m.records.get? key) :
    ((m.records.get? key).isSome = true ∧ m'.records.get? key = none) ↔
      (m.records.get? key).isSome = true ∧ key ∈ keys := by
  refine and_congr_right fun hsome => ?_
  rw [h]
  split
  · next hmem => exact iff_of_true rfl hmem
  · next hmem => exact iff_of_false (fun hnone => by rw [hnone] at hsome; cases hsome) hmem

/-- A shutdown that succeeds removes exactly the rows that bind an ASIC to the card where every one
of them stands under the key that is made from its number, and only there. -/
theorem removal_of_transcript (hb : Bound m module.name asics)
    (h : (reconcile r module .down).Transcript Replies m t (.ok (.restarted asics')) m') :
    asics' = asics ∧
    (∀ asic, asic ∈ asics ↔ ∃ key, Binds m module.name key asic) ∧
    (∀ key, m'.records.get? key =
      if key ∈ asics.map rowRawKey then none else m.records.get? key) ∧
    (RemovesBinding m m' module.name ↔
      ∀ key asic, Binds m module.name key asic → key = rowRawKey asic) := by
  obtain ⟨hasics, hget⟩ := get?_of_restarted hb h
  obtain ⟨-, hmem⟩ := sorted_and_mem_iff_of_bound hb
  refine ⟨hasics, hmem, hget, ?_, ?_⟩
  · intro hremoves key asic hbinds
    obtain ⟨-, hdeleted⟩ := (removed_iff_of_get?_eq (hget key)).1 ((hremoves key).2 ⟨asic, hbinds⟩)
    obtain ⟨n, hn, rfl⟩ := List.mem_map.1 hdeleted
    obtain ⟨_, hbinds'⟩ := (hmem n).1 hn
    rw [((binds_rowRawKey_iff (le_maxAsic_of_asicOfKey? hbinds'.ends)).1 hbinds).2]
  · intro hmade key
    refine (removed_iff_of_get?_eq (hget key)).trans ⟨?_, ?_⟩
    · rintro ⟨-, hdeleted⟩
      obtain ⟨n, hn, rfl⟩ := List.mem_map.1 hdeleted
      obtain ⟨key', hbinds⟩ := (hmem n).1 hn
      exact ⟨n, hmade key' n hbinds ▸ hbinds⟩
    · rintro ⟨asic, hbinds⟩
      refine ⟨hbinds.isSome, ?_⟩
      rw [hmade key asic hbinds]
      exact List.mem_map_of_mem ((hmem asic).2 ⟨key, hbinds⟩)

/-! ## A row of another card that is removed -/

theorem Plant.replies_answer (q : Request) (w : Plant) :
    Replies q w.chassisState (Plant.answer q w).1 (Plant.answer q w).2.chassisState := by
  cases q with
  | chassisState c => exact .answered c _
  | config | observed | pause => rfl
  | service c =>
    cases c with
    | start | stop | resetFailed | isActive => rfl

/-- Where the status is seen at once and ASICs are bound to the card, the plan for them is run. -/
theorem Plant.run_reconcile_eq {w : Plant} {target : AdminStatus}
    (h : r.guard.adminStatusOf (Module.recordIn w.config module.name) = target)
    (hb : Bound w.chassisState module.name asics) :
    w.run (reconcile r module target) = w.run (carryOut module.name target asics) := by
  have hfound : w.run (lookUp r module target) = (.ok asics, w) :=
    (run_bind (run_awaitStatus h 0) _).trans (run_onChassisState hb)
  rw [reconcile_eq_lookUp_bind, run_bind hfound]

open Chassis (card0 standardReconciler)

/-- CONFIG_DB where the card is shut down. -/
def shutDown : Memory := Module.withRecord Memory.empty "FABRIC-CARD0" (Guard.plainRecord .down)

theorem adminStatusOf_shutDown :
    standardReconciler.guard.adminStatusOf (Module.recordIn shutDown card0.name) = .down := by
  rw [show Module.recordIn shutDown card0.name = Guard.plainRecord .down from
    Memory.entry_put_self _ _ _ _]
  rfl

/-- A card that is shut down, whose row has a zero in front of its number, and a row of another
card that has none. -/
def zeroInFront : Plant where
  config := Module.withRecord Memory.empty "FABRIC-CARD0" (Guard.plainRecord .down)
  chassisState := Memory.empty.seed
    [(table, "asic03", [(nameField, "FABRIC-CARD0")]), (table, "asic3", [(nameField, "FABRIC-CARD1")])]
  running := [Service.unitOfAsic 3]

/-- What its shutdown leaves. -/
def zeroInFrontDone : Plant where
  config := zeroInFront.config
  chassisState := ⟨zeroInFront.chassisState.records.erase (rowRawKey 3), [rowRawKey 3]⟩
  running := [Service.unitOfAsic 3]

theorem bound_zeroInFront : Bound zeroInFront.chassisState card0.name [3] := by
  unfold Bound
  rfl

theorem run_zeroInFront : zeroInFront.run (reconcile standardReconciler card0 .down) =
    (.ok (.restarted [3]), zeroInFrontDone) := by
  rw [Plant.run_reconcile_eq adminStatusOf_shutDown bound_zeroInFront]
  rfl

theorem binds_zeroInFront :
    Binds zeroInFront.chassisState card0.name "CHASSIS_FABRIC_ASIC_TABLE|asic03" 3 :=
  ⟨⟨"|asic03".toList, rfl, by decide⟩, rfl, rfl⟩

theorem removal_of_transcript_zeroInFront : ∃ t,
    (reconcile standardReconciler card0 .down).Transcript Replies zeroInFront.chassisState t
      (.ok (.restarted [3])) zeroInFrontDone.chassisState ∧
    (RemovesBinding zeroInFront.chassisState zeroInFrontDone.chassisState card0.name ↔
      ∀ key asic, Binds zeroInFront.chassisState card0.name key asic → key = rowRawKey asic) := by
  obtain ⟨t, h⟩ := exists_transcript_of_runWith Plant.chassisState Plant.replies_answer run_zeroInFront
  exact ⟨t, h, (removal_of_transcript bound_zeroInFront h).2.2.2⟩

/-- The shutdown of a card succeeds, the row that binds its ASIC is still there, and the row of
another card is gone. -/
theorem otherCard_removed :
    zeroInFront.run (reconcile standardReconciler card0 .down) =
      (.ok (.restarted [3]), zeroInFrontDone) ∧
    ¬RemovesBinding zeroInFront.chassisState zeroInFrontDone.chassisState card0.name ∧
    cardOf? zeroInFrontDone.chassisState "CHASSIS_FABRIC_ASIC_TABLE|asic03" = some card0.name ∧
    cardOf? zeroInFront.chassisState (rowRawKey 3) = some "FABRIC-CARD1" ∧
    zeroInFrontDone.chassisState.records.get? (rowRawKey 3) = none := by
  refine ⟨run_zeroInFront, ?_, rfl, rfl, rfl⟩
  intro hremoves
  have hgone := ((hremoves _).2 ⟨3, binds_zeroInFront⟩).2
  cases hgone

end ChassisAdmin.Fabric
