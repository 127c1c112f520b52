import ChassisAdmin.Proofs.Guard.Operation
import Mathlib.Logic.Function.Basic

/-!
# The guard as a ledger

The guard of a smartswitch keeps its state in text records.  What it keeps is a
`Ledger`: for each name of a module an admin status and, while a change is under
way, the reading of the clock at which it started.  The ledger decides a request
by three rules.

* A module that has the target status already is left alone.
* A change that is under way for at most 240 seconds rejects the request.  The
  age counts from the start as a timestamp keeps it, so a start in the future
  has not timed out.
* Any other request is applied.  The status and the reading go into the ledger.

Clearing forgets the start of a change and nothing else.

`serve_empty` is the refinement.  On a database that starts empty, every
sequence of operations gets the answers of the ledger, and what the guard then
reports of a module is what the ledger holds.  `Shows` ties one record to one
line of the ledger: a record is absent, full or cleared, and a full one holds
the timestamp of the start.
-/

namespace ChassisAdmin.Guard

open Store (Memory)
open ChassisAdmin.Module (recordIn withRecord)
open Time (Reading)

/-- An operation at a reading of the clock. -/
structure Event where
  /-- The operation. -/
  operation : Operation
  /-- The reading. -/
  reading : Reading

/-- Runs operations one after the other on a database in memory. -/
def serve : List Event → Memory → List (Except SystemError (Option TransitionOutcome)) × Memory
  | [], m => ([], m)
  | e :: es, m =>
      let r := (e.operation.program e.reading.time).onMemory m
      let rest := serve es r.2
      (r.1 :: rest.1, rest.2)

/-! ## The ledger -/

/-- The state of modules by name. -/
structure Ledger where
  /-- The admin status. -/
  status : String → AdminStatus
  /-- The start of the change under way, if there is one. -/
  startedAt : String → Option Reading

namespace Ledger

/-- The ledger of modules that nobody has asked for yet. -/
def initial : Ledger := ⟨fun _ => .down, fun _ => none⟩

/-- Enters a change that starts. -/
def start (s : Ledger) (name : String) (target : AdminStatus) (now : Reading) : Ledger :=
  ⟨Function.update s.status name target, Function.update s.startedAt name (some now)⟩

/-- Forgets the start of the change under way. -/
def forget (s : Ledger) (name : String) : Ledger :=
  { s with startedAt := Function.update s.startedAt name none }

/-- Decides a request. -/
def request (s : Ledger) (name : String) (target : AdminStatus) (now : Reading) :
    TransitionOutcome × Ledger :=
  if s.status name = target then (.alreadyInTargetState, s)
  else
    match s.startedAt name with
    | none => (.applied, s.start name target now)
    | some start =>
        if start.Overdue now then (.appliedAfterTimeoutReclaim, s.start name target now)
        else (.rejectedDuplicateInProgress, s)

/-- Carries out an operation. -/
def step (s : Ledger) (e : Event) : Option TransitionOutcome × Ledger :=
  match e.operation with
  | .request module target =>
      let r := s.request module.name target e.reading
      (some r.1, r.2)
  | .clear name => (none, s.forget name)

/-- Carries out operations one after the other. -/
def run : List Event → Ledger → List (Option TransitionOutcome) × Ledger
  | [], s => ([], s)
  | e :: es, s =>
      let r := s.step e
      let rest := run es r.2
      (r.1 :: rest.1, rest.2)

/-- What is to be reported of a module at a reading. -/
def state (s : Ledger) (name : String) (now : Reading) : TransitionState where
  adminStatus := s.status name
  inProgress := (s.startedAt name).isSome
  startTime := (s.startedAt name).map fun start => Time.formatTimestamp start.time
  timedOut := (s.startedAt name).any fun start => start.Overdue now

end Ledger

/-! ## Records and lines of the ledger -/

/-- A record that shows a status and the start of a change under way. -/
inductive Shows : Option Fields → AdminStatus → Option Reading → Prop where
  /-- No record. -/
  | absent : Shows none .down none
  /-- The record of a change under way. -/
  | full (target : AdminStatus) (start : Reading) :
      Shows (some (startedRecord ⟨true, start.time⟩ target)) target (some start)
  /-- The record of a module that had none when it was cleared. -/
  | blank : Shows (some [(Module.inProgressField, flagText false)]) .down none
  /-- The record of a change that was cleared. -/
  | cleared (status : AdminStatus) :
      Shows (some [(Module.adminStatusField, status.text), (Module.inProgressField, flagText false)])
        status none

namespace Shows

variable {entry : Option Fields} {status : AdminStatus} {startedAt : Option Reading}

theorem stateOf (h : Shows entry status startedAt) (now : Reading) :
    Guard.stateOf ⟨true, now.time⟩ entry =
      { adminStatus := status
        inProgress := startedAt.isSome
        startTime := startedAt.map fun start => Time.formatTimestamp start.time
        timedOut := startedAt.any fun start => start.Overdue now } := by
  cases h with
  | absent => rfl
  | full target start =>
    simp only [Guard.stateOf, adminStatusOf_startedRecord, inProgressOf_startedRecord,
      startTimeOf_startedRecord, timedOutOf_of_startTime _ _ (startTimeOf_startedRecord _ _),
      isAbandoned_truncated]
    rfl
  | blank => rfl
  | cleared status => cases status <;> rfl

theorem adminStatusOf (h : Shows entry status startedAt) (now : Reading) :
    Guard.adminStatusOf ⟨true, now.time⟩ entry = status :=
  congrArg TransitionState.adminStatus (h.stateOf now)

theorem inProgressOf (h : Shows entry status startedAt) :
    Guard.inProgressOf entry = startedAt.isSome :=
  congrArg TransitionState.inProgress (h.stateOf (Reading.ofUnix 0))

theorem timedOutOf (h : Shows entry status startedAt) (now : Reading) :
    Guard.timedOutOf ⟨true, now.time⟩ entry = startedAt.any fun start => start.Overdue now :=
  congrArg TransitionState.timedOut (h.stateOf now)

/-- Clearing forgets the start and keeps the status. -/
theorem clear (h : Shows entry status startedAt) : Shows (some (clearedRecord entry)) status none := by
  cases h with
  | absent => exact .blank
  | full => exact .cleared status
  | blank => exact .blank
  | cleared status => exact .cleared status

end Shows

/-- A database that shows a ledger: every record shows its line. -/
def Tracks (m : Memory) (s : Ledger) : Prop :=
  ∀ name, Shows (recordIn m name) (s.status name) (s.startedAt name)

namespace Tracks

variable {m : Memory} {s : Ledger}

theorem empty : Tracks Memory.empty Ledger.initial := fun _ => .absent

/-- Writing a record that shows a new line keeps the rest of the ledger in view. -/
theorem withRecord (h : Tracks m s) (name : String) {l : Fields} {status : AdminStatus}
    {startedAt : Option Reading} (hl : Memory.nonempty l = some l)
    (hs : Shows (some l) status startedAt) :
    Tracks (Module.withRecord m name (some l))
      ⟨Function.update s.status name status, Function.update s.startedAt name startedAt⟩ := by
  intro j
  rw [recordIn, Memory.entry_put]
  by_cases hj : name = j
  · subst hj
    simpa [hl] using hs
  · simpa [hj, Function.update_of_ne (Ne.symm hj)] using h j

theorem started (h : Tracks m s) (name : String) (target : AdminStatus) (now : Reading) :
    Tracks (Module.withRecord m name (some (startedRecord ⟨true, now.time⟩ target)))
      (s.start name target now) :=
  h.withRecord name (nonempty_startedRecord _ _) (.full target now)

theorem cleared (h : Tracks m s) (name : String) :
    Tracks (Module.withRecord m name (some (clearedRecord (recordIn m name)))) (s.forget name) := by
  have hw := h.withRecord name (nonempty_clearedRecord (recordIn m name)) (h name).clear
  rwa [Function.update_eq_self] at hw

theorem forget_start (s : Ledger) (name : String) (target : AdminStatus) (now : Reading) :
    (s.forget name).start name target now = s.start name target now := by
  simp [Ledger.start, Ledger.forget]

/-- A request gets the answer of the ledger and leaves a database that shows the next ledger. -/
theorem request (h : Tracks m s) {module : ModuleName} {target : AdminStatus} {now : Reading}
    {m' : Memory} {r : Except SystemError TransitionOutcome}
    (hr : Requested (fun _ => False) ⟨true, now.time⟩ module.name target m r m') :
    r = .ok (s.request module.name target now).1 ∧ Tracks m' (s.request module.name target now).2 := by
  have hstatus := (h module.name).adminStatusOf now
  have hprogress := (h module.name).inProgressOf
  have htimed := (h module.name).timedOutOf now
  cases hr with
  | failed e hf => exact absurd hf.choose_spec id
  | same hs =>
    rw [hstatus] at hs
    simp only [Ledger.request, if_pos hs]
    exact ⟨trivial, h⟩
  | plain hs hg => cases hg
  | started hs hg hp =>
    rw [hstatus] at hs
    have hnone : s.startedAt module.name = none := by simpa [hp] using hprogress
    simp only [Ledger.request, if_neg hs, hnone]
    exact ⟨trivial, h.started module.name target now⟩
  | rejected hs hg hp ht =>
    rw [hstatus] at hs
    obtain ⟨start, hsome⟩ := Option.isSome_iff_exists.1 (hprogress.symm.trans hp)
    have hlate : ¬start.Overdue now := by simpa [ht, hsome] using htimed
    simp only [Ledger.request, if_neg hs, hsome, if_neg hlate]
    exact ⟨trivial, h⟩
  | halfway e hf => exact absurd hf.choose_spec id
  | reclaimed hs hg hp ht =>
    rw [hstatus] at hs
    obtain ⟨start, hsome⟩ := Option.isSome_iff_exists.1 (hprogress.symm.trans hp)
    have hlate : start.Overdue now := by simpa [ht, hsome] using htimed
    simp only [Ledger.request, if_neg hs, hsome, if_pos hlate]
    have ht' := (h.cleared module.name).started module.name target now
    rw [forget_start] at ht'
    exact ⟨trivial, ht'⟩

/-- An operation gets the answer of the ledger and leaves a database that shows the next ledger. -/
theorem step (h : Tracks m s) (e : Event) :
    ((e.operation.program e.reading.time).onMemory m).1 = .ok (s.step e).1 ∧
      Tracks ((e.operation.program e.reading.time).onMemory m).2 (s.step e).2 := by
  obtain ⟨op, now⟩ := e
  have hends := Store.Client.ends_onMemory (fun _ => False) (op.program now.time) m
  generalize (op.program now.time).onMemory m = x at hends ⊢
  obtain ⟨r, m'⟩ := x
  cases operated_of_ends hends with
  | request hr =>
    obtain ⟨rfl, ht⟩ := h.request hr
    exact ⟨rfl, ht⟩
  | clear hc =>
    cases hc with
    | failed e hf => exact absurd hf.choose_spec id
    | cleared => exact ⟨rfl, h.cleared _⟩

theorem serve (h : Tracks m s) (events : List Event) :
    (Guard.serve events m).1 = (Ledger.run events s).1.map .ok ∧
      Tracks (Guard.serve events m).2 (Ledger.run events s).2 := by
  induction events generalizing m s with
  | nil => exact ⟨rfl, h⟩
  | cons e es ih =>
    obtain ⟨hr, ht⟩ := h.step e
    obtain ⟨hrs, hts⟩ := ih ht
    refine ⟨?_, hts⟩
    rw [Guard.serve, Ledger.run, List.map_cons, hr, hrs]

theorem transitionState (h : Tracks m s) (name : String) (now : Reading) :
    (Guard.transitionState ⟨true, now.time⟩ name).onMemory m = (.ok (s.state name now), m) := by
  change (Except.ok (Guard.stateOf ⟨true, now.time⟩ (recordIn m name)), m) = _
  rw [(h name).stateOf now]
  rfl

end Tracks

/-- On a database that starts empty, the guard of a smartswitch answers every sequence of
operations as the ledger does, at any readings of the clock.  What it then reports of any module
is what the ledger holds. -/
theorem serve_empty (events : List Event) :
    (serve events Memory.empty).1 = (Ledger.run events Ledger.initial).1.map .ok ∧
      ∀ (name : String) (now : Reading),
        (transitionState ⟨true, now.time⟩ name).onMemory (serve events Memory.empty).2 =
          (.ok ((Ledger.run events Ledger.initial).2.state name now),
            (serve events Memory.empty).2) := by
  obtain ⟨hr, ht⟩ := Tracks.empty.serve events
  exact ⟨hr, fun name now => ht.transitionState name now⟩

end ChassisAdmin.Guard
