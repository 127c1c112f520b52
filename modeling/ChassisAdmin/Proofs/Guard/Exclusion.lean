import ChassisAdmin.Proofs.Guard.Ledger

/-!
# One change at a time

A `History` is what happened when operations on the guard of a smartswitch ran
one after the other on a database that may refuse any call.  The database holds
any records at the start.  `exists_opens_of_applied` is the mutual exclusion: if
two requests for one module were applied in a history, something opened the gate
between them.  Only two things open it (`Turn.Opens`).

* The change of the module was cleared, and the clearing succeeded.
* The module was requested at a reading at which the first change was overdue.
  That may be the second request itself or one that failed halfway, after it had
  cleared the record and before it had written the new one.

While neither has happened the record says that the first change is under way
and when it started.  That is the invariant `Held`.
-/

namespace ChassisAdmin.Guard

open Store (Memory Call)
open ChassisAdmin.Module (recordIn withRecord)
open Time (Reading)

/-- An event with its answer. -/
structure Turn where
  event : Event
  answer : Except SystemError (Option TransitionOutcome)

/-- A history of operations on a database, with the database before and after it. -/
inductive History (mayFail : Call → Prop) : Memory → List Turn → Memory → Prop where
  | nil (m : Memory) : History mayFail m [] m
  | cons {e : Event} {r : Except SystemError (Option TransitionOutcome)} {h : List Turn}
      {m m₁ m₂ : Memory}
      (hr : Store.Client.Ends mayFail (e.operation.program e.reading.time) m r m₁)
      (hh : History mayFail m₁ h m₂) : History mayFail m (⟨e, r⟩ :: h) m₂

namespace Turn

/-- The turn is a request for a module that was applied. -/
def Applied (t : Turn) (name : String) : Prop :=
  ∃ module target outcome, t.event.operation = .request module target ∧ module.name = name ∧
    t.answer = .ok (some outcome) ∧ outcome.isApplied = true

/-- The turn opens the gate for a module whose change started at a reading. -/
def Opens (t : Turn) (name : String) (start : Reading) : Prop :=
  t.event.operation = .clear name ∧ t.answer = .ok none ∨
    ∃ module target, t.event.operation = .request module target ∧ module.name = name ∧
      start.Overdue t.event.reading

end Turn

variable {mayFail : Call → Prop} {m m₁ m' : Memory}

theorem History.append_iff {a b : List Turn} :
    History mayFail m (a ++ b) m' ↔ ∃ m₁, History mayFail m a m₁ ∧ History mayFail m₁ b m' := by
  constructor
  · intro h
    induction a generalizing m with
    | nil => exact ⟨m, .nil m, h⟩
    | cons t a ih =>
      cases h with
      | cons hr hh =>
        obtain ⟨m₁, ha, hb⟩ := ih hh
        exact ⟨m₁, .cons hr ha, hb⟩
  · rintro ⟨m₁, ha, hb⟩
    induction ha with
    | nil m => exact hb
    | cons hr _ ih => exact .cons hr (ih hb)

/-- What `serve` answers is a history. -/
theorem history_serve (mayFail : Call → Prop) (events : List Event) (m : Memory) :
    History mayFail m (List.zipWith Turn.mk events (serve events m).1) (serve events m).2 := by
  induction events generalizing m with
  | nil => exact .nil m
  | cons e es ih => exact .cons (Store.Client.ends_onMemory _ _ _) (ih _)

/-! ## The record of the change under way -/

/-- The record of a module tells of a change under way that started at a reading. -/
structure Held (m : Memory) (name : String) (start : Reading) : Prop where
  inProgress : inProgressOf (recordIn m name) = true
  startTime : startTimeOf (recordIn m name) = some (Time.formatTimestamp start.time)

theorem Held.of_recordIn_eq {name : String} {start : Reading} (hm : Held m name start)
    (h : recordIn m' name = recordIn m name) : Held m' name start :=
  ⟨by rw [h]; exact hm.inProgress, by rw [h]; exact hm.startTime⟩

theorem Held.started (m : Memory) (name : String) (target : AdminStatus) (start : Reading) :
    Held (withRecord m name (some (startedRecord ⟨true, start.time⟩ target))) name start := by
  have h := Memory.entry_put_self m Module.table name
    (some (startedRecord ⟨true, start.time⟩ target))
  rw [Option.bind_some, nonempty_startedRecord] at h
  exact ⟨by rw [recordIn, h]; exact inProgressOf_startedRecord _ _,
    by rw [recordIn, h]; exact startTimeOf_startedRecord _ _⟩

/-- A request that is applied leaves the record of its own change. -/
theorem Held.of_applied {name : String} {target : AdminStatus} {now : Reading}
    {outcome : TransitionOutcome} (ha : outcome.isApplied = true)
    (h : Requested mayFail ⟨true, now.time⟩ name target m (.ok outcome) m') :
    Held m' name now := by
  cases h with
  | same | rejected => cases ha
  | plain _ hg => cases hg
  | started => exact Held.started m name target now
  | reclaimed => exact Held.started _ name target now

/-- A request for the module that comes too early writes nothing and is not applied. -/
theorem Held.of_request {name : String} {target : AdminStatus} {start now : Reading}
    {r : Except SystemError TransitionOutcome} (hm : Held m name start)
    (hearly : ¬start.Overdue now) (h : Requested mayFail ⟨true, now.time⟩ name target m r m') :
    Held m' name start ∧ ∀ outcome, r = .ok outcome → outcome.isApplied = false := by
  have ht : Guard.timedOutOf ⟨true, now.time⟩ (recordIn m name) = false := by
    rw [timedOutOf_of_startTime _ _ hm.startTime, isAbandoned_truncated]
    exact decide_eq_false hearly
  cases h with
  | failed e => exact ⟨hm, fun _ h => nomatch h⟩
  | same => exact ⟨hm, fun _ h => by cases h; rfl⟩
  | plain _ hg => cases hg
  | started _ _ hp => exact absurd (hm.inProgress.symm.trans hp) (by decide)
  | rejected => exact ⟨hm, fun _ h => by cases h; rfl⟩
  | halfway _ _ _ _ _ ht' => exact absurd (ht.symm.trans ht') (by decide)
  | reclaimed _ _ _ ht' => exact absurd (ht.symm.trans ht') (by decide)

/-- A turn that does not open the gate keeps the record of the change, and its request for the
module is not applied. -/
theorem Held.of_turn {name : String} {start : Reading} {e : Event}
    {r : Except SystemError (Option TransitionOutcome)} (hm : Held m name start)
    (h : Store.Client.Ends mayFail (e.operation.program e.reading.time) m r m')
    (hn : ¬Turn.Opens ⟨e, r⟩ name start) : Held m' name start ∧ ¬Turn.Applied ⟨e, r⟩ name := by
  obtain ⟨op, now⟩ := e
  have ho := operated_of_ends h
  by_cases hname : op.name = name
  · cases ho with
    | @request module target r hr =>
      have hname' : module.name = name := hname
      have hearly : ¬start.Overdue now := fun hl => hn (.inr ⟨module, target, rfl, hname', hl⟩)
      rw [hname'] at hr
      obtain ⟨hm', hr'⟩ := hm.of_request hearly hr
      refine ⟨hm', ?_⟩
      rintro ⟨_, _, outcome, _, _, hans, happ⟩
      cases r with
      | error e => cases hans
      | ok o =>
        cases hans
        exact absurd (happ.symm.trans (hr' outcome rfl)) (by decide)
    | @clear name' r hr =>
      refine ⟨?_, fun ⟨_, _, _, hop, _⟩ => nomatch hop⟩
      cases hr with
      | failed e hf => exact hm
      | cleared =>
        have hname' : name' = name := hname
        exact absurd (.inl ⟨by rw [hname'], rfl⟩) hn
  · refine ⟨hm.of_recordIn_eq (ho.recordIn_of_ne hname), ?_⟩
    rintro ⟨module, target, _, hop, hmod, _⟩
    have hop' : op = .request module target := hop
    exact hname (by rw [hop']; exact hmod)

/-- While the gate is shut no request for the module is applied. -/
theorem Held.exists_opens {name : String} {start : Reading} {between after : List Turn}
    {second : Turn} (hm : Held m name start)
    (h : History mayFail m (between ++ second :: after) m') (hs : second.Applied name) :
    ∃ t ∈ between ++ [second], t.Opens name start := by
  induction between generalizing m with
  | nil =>
    cases h with
    | cons hr _ =>
      by_contra hn
      exact (hm.of_turn hr fun ho => hn ⟨_, List.mem_singleton_self _, ho⟩).2 hs
  | cons t between ih =>
    cases h with
    | @cons e r _ _ _ _ hr hh =>
      by_cases ho : Turn.Opens ⟨e, r⟩ name start
      · exact ⟨_, List.mem_cons_self, ho⟩
      · obtain ⟨t', ht', ho'⟩ := ih (hm.of_turn hr ho).1 hh
        exact ⟨t', List.mem_cons_of_mem _ ht', ho'⟩

/-- Between two applied requests for one module, its change was cleared or it was requested when
the first change was overdue.  The database may hold anything at the start and may refuse any
call. -/
theorem exists_opens_of_applied {m m' : Memory} {before between after : List Turn}
    {first second : Turn} {name : String}
    (hh : History (fun _ => True) m (before ++ first :: (between ++ second :: after)) m')
    (hf : first.Applied name) (hs : second.Applied name) :
    ∃ t ∈ between ++ [second], t.Opens name first.event.reading := by
  obtain ⟨m₁, -, hh⟩ := History.append_iff.1 hh
  cases hh with
  | @cons e r _ _ m₂ _ hr hh =>
    obtain ⟨module, target, outcome, hop, hname, hans, happ⟩ := hf
    have ho := operated_of_ends hr
    rw [hop] at ho
    have hm : Held m₂ name e.reading := by
      generalize hans' : r = r' at ho
      cases ho with
      | @request _ _ r'' h =>
        cases r'' with
        | error e => cases hans'.symm.trans hans
        | ok o =>
          cases hans'.symm.trans hans
          rw [← hname]
          exact Held.of_applied happ h
    exact hm.exists_opens hh hs

/-- A data processing unit is started, cleared and shut down again at one reading. -/
def startedAndCleared : List Event :=
  [⟨.request .dpu0 .up, .ofUnix 0⟩, ⟨.clear "DPU0", .ofUnix 0⟩, ⟨.request .dpu0 .down, .ofUnix 0⟩]

theorem exists_opens_of_startedAndCleared :
    let turns := List.zipWith Turn.mk startedAndCleared
      [.ok (some .applied), .ok none, .ok (some .applied)]
    History (fun _ => True) Memory.empty turns (serve startedAndCleared Memory.empty).2 ∧
      ∃ t ∈ turns.drop 1, t.Opens "DPU0" (.ofUnix 0) := by
  have hans : (serve startedAndCleared Memory.empty).1 =
      [.ok (some .applied), .ok none, .ok (some .applied)] :=
    (Tracks.empty.serve startedAndCleared).1.trans rfl
  have hh := history_serve (fun _ => True) startedAndCleared Memory.empty
  rw [hans] at hh
  exact ⟨hh, @exists_opens_of_applied _ _ [] [⟨⟨.clear "DPU0", .ofUnix 0⟩, .ok none⟩] []
    ⟨⟨.request .dpu0 .up, .ofUnix 0⟩, .ok (some .applied)⟩
    ⟨⟨.request .dpu0 .down, .ofUnix 0⟩, .ok (some .applied)⟩ "DPU0" hh
    ⟨.dpu0, .up, .applied, rfl, rfl, rfl, rfl⟩ ⟨.dpu0, .down, .applied, rfl, rfl, rfl, rfl⟩⟩

end ChassisAdmin.Guard
