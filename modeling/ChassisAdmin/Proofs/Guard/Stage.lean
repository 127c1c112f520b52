import ChassisAdmin.Proofs.Guard.Operation
import ChassisAdmin.Proofs.Store.Pool

/-!
# Stages of an operation

An operation makes up to four calls, and what it does next depends on nothing but
how far it has got and what it has read.  That is its `Stage`.  A request reads
the record and then stops, starts a change, or clears an abandoned one first.
To clear it reads the record anew and writes it back without the change, and by
then another program may have written the record.

`Stage.Moves` lists what one call does at each stage, on whatever database the
call finds.  `exists_moves_of_called` says that the calls of the program are
listed there, and `exists_stages` carries this over to every run of a pool.
-/

namespace ChassisAdmin.Guard

open Store (Memory Call Answer Called Pool Schedule)
open ChassisAdmin.Module (recordIn withRecord)
open Time (DateTime)

/-- An operation and the instant it is asked for. -/
structure Asked where
  operation : Operation
  now : DateTime

/-- What is left of an operation between two of its calls. -/
abbrev Rest : Type := Program Call Answer (Except SystemError (Option TransitionOutcome))

namespace Asked

/-- The name of the module of an operation. -/
abbrev name (a : Asked) : String := a.operation.name

/-- The guard that carries the operation out. -/
def guard (a : Asked) : Guard := ⟨true, a.now⟩

/-- The whole program of an operation. -/
def program (a : Asked) : Rest := (a.operation.program a.now).run

/-- What an operation does after it has cleared a record. -/
def afterClearing (a : Asked) : Store.Client (Option TransitionOutcome) :=
  match a.operation with
  | .request _ target => do
      a.guard.start a.name target
      return some .appliedAfterTimeoutReclaim
  | .clear _ => return none

end Asked

/-- How far an operation has got. -/
inductive Stage where
  /-- It has made no call. -/
  | reading
  /-- It has found an abandoned change and is about to read the record to be cleared. -/
  | rereading
  /-- It is about to clear the record that it has read. -/
  | clearing (entry : Option Fields)
  /-- It is about to write the record of its change. -/
  | starting (target : AdminStatus) (outcome : TransitionOutcome)
  /-- It has ended. -/
  | returned (answer : Except SystemError (Option TransitionOutcome))

namespace Stage

/-- What is left of an operation at a stage. -/
def rest (a : Asked) : Stage → Rest
  | reading => a.program
  | rereading => (do clearTransition a.name; a.afterClearing).run
  | clearing entry => (do
      Store.setEntry Module.table a.name (some (clearedRecord entry))
      a.afterClearing).run
  | starting target outcome => (do
      a.guard.start a.name target
      return some outcome).run
  | returned answer => .done answer

/-- The moves of an operation, each with the database before and after it.  Every call may be
refused, and the operation has ended then. -/
inductive Moves (mayFail : Call → Prop) (a : Asked) : Stage → Memory → Stage → Memory → Prop where
  | failed (s : Stage) (m : Memory) (e : SystemError) (hf : ∃ c, mayFail c) :
      Moves mayFail a s m (returned (.error e)) m
  | settled {module : ModuleName} {target : AdminStatus} (m : Memory) (o : TransitionOutcome)
      (hop : a.operation = .request module target) (ho : o.isApplied = false) :
      Moves mayFail a reading m (returned (.ok (some o))) m
  | free {module : ModuleName} {target : AdminStatus} (m : Memory)
      (hop : a.operation = .request module target) (hp : inProgressOf (recordIn m a.name) = false) :
      Moves mayFail a reading m (starting target .applied) m
  | abandoned {module : ModuleName} {target : AdminStatus} (m : Memory)
      (hop : a.operation = .request module target)
      (ht : a.guard.timedOutOf (recordIn m a.name) = true) : Moves mayFail a reading m rereading m
  | read {name : String} (m : Memory) (hop : a.operation = .clear name) :
      Moves mayFail a reading m (clearing (recordIn m a.name)) m
  | reread (m : Memory) : Moves mayFail a rereading m (clearing (recordIn m a.name)) m
  | reclaimed {module : ModuleName} {target : AdminStatus} (m : Memory) (entry : Option Fields)
      (hop : a.operation = .request module target) :
      Moves mayFail a (clearing entry) m (starting target .appliedAfterTimeoutReclaim)
        (withRecord m a.name (some (clearedRecord entry)))
  | cleared {name : String} (m : Memory) (entry : Option Fields)
      (hop : a.operation = .clear name) :
      Moves mayFail a (clearing entry) m (returned (.ok none))
        (withRecord m a.name (some (clearedRecord entry)))
  | started (m : Memory) (target : AdminStatus) (outcome : TransitionOutcome) :
      Moves mayFail a (starting target outcome) m (returned (.ok (some outcome)))
        (withRecord m a.name (some (a.guard.startedRecord target)))

variable {mayFail : Call → Prop} {a : Asked} {m m' : Memory} {y : Rest}

/-- A request decides by the record that it reads first. -/
theorem exists_moves_of_reading {module : ModuleName} {target : AdminStatus}
    (hop : a.operation = .request module target) (h : Called mayFail (rest a reading) m y m') :
    ∃ s', y = s'.rest a ∧ Moves mayFail a reading m s' m' := by
  have hname : a.name = module.name := by rw [Asked.name, hop]; rfl
  rw [rest, Asked.program, hop, Operation.program, requestTransition, bind_assoc] at h
  obtain ⟨rfl, rfl | ⟨e, rfl, hf⟩⟩ := Store.called_getEntry h
  · change ∃ s', _ = _ ∧ Moves _ _ _ m' s' m'
    rw [← recordIn, ← hname]
    by_cases hs : adminStatusOf ⟨true, a.now⟩ (recordIn m' a.name) = target
    · rw [if_pos hs]
      exact ⟨_, rfl, .settled m' .alreadyInTargetState hop rfl⟩
    rw [if_neg hs, if_neg (by simp)]
    cases hp : inProgressOf (recordIn m' a.name) with
    | false =>
      rw [if_pos Bool.not_false]
      refine ⟨starting target .applied, ?_, .free m' hop hp⟩
      rw [bind_assoc]
      rfl
    | true =>
      rw [if_neg (by decide)]
      cases ht : timedOutOf ⟨true, a.now⟩ (recordIn m' a.name) with
      | false => exact ⟨_, rfl, .settled m' .rejectedDuplicateInProgress hop rfl⟩
      | true =>
        refine ⟨rereading, ?_, .abandoned m' hop ht⟩
        rw [if_pos rfl, rest, Asked.afterClearing, hop]
        simp only [bind_assoc, pure_bind]
        rfl
  · exact ⟨returned (.error e), rfl, .failed _ _ e ⟨_, hf⟩⟩

theorem exists_moves_of_called {s : Stage} (h : Called mayFail (s.rest a) m y m') :
    ∃ s', y = s'.rest a ∧ Moves mayFail a s m s' m' := by
  cases s with
  | reading =>
    cases hop : a.operation with
    | request module target => exact exists_moves_of_reading hop h
    | clear name =>
      rw [rest, Asked.program, hop, Operation.program, clearTransition, bind_assoc] at h
      obtain ⟨rfl, rfl | ⟨e, rfl, hf⟩⟩ := Store.called_getEntry h
      · refine ⟨clearing (recordIn m' a.name), ?_, .read m' hop⟩
        rw [rest, Asked.afterClearing, Asked.name, hop]
        rfl
      · exact ⟨returned (.error e), rfl, .failed _ _ e ⟨_, hf⟩⟩
  | rereading =>
    rw [rest, clearTransition, bind_assoc] at h
    obtain ⟨rfl, rfl | ⟨e, rfl, hf⟩⟩ := Store.called_getEntry h
    · exact ⟨_, rfl, .reread m'⟩
    · exact ⟨returned (.error e), rfl, .failed _ _ e ⟨_, hf⟩⟩
  | clearing entry =>
    obtain ⟨rfl, rfl⟩ | ⟨e, rfl, rfl, hf⟩ := Store.called_setEntry h
    · cases hop : a.operation with
      | request module target =>
        refine ⟨starting target .appliedAfterTimeoutReclaim, ?_, .reclaimed m entry hop⟩
        rw [rest, Asked.afterClearing, hop]
      | clear name =>
        refine ⟨returned (.ok none), ?_, .cleared m entry hop⟩
        rw [rest, Asked.afterClearing, hop]
        rfl
    · exact ⟨returned (.error e), rfl, .failed _ _ e ⟨_, hf⟩⟩
  | starting target outcome =>
    obtain ⟨rfl, rfl⟩ | ⟨e, rfl, rfl, hf⟩ := Store.called_setEntry h
    · exact ⟨_, rfl, .started m target outcome⟩
    · exact ⟨returned (.error e), rfl, .failed _ _ e ⟨_, hf⟩⟩
  | returned answer => cases h

/-- Only an operation that has ended has nothing left to do. -/
theorem eq_returned_of_rest {s : Stage} {answer : Except SystemError (Option TransitionOutcome)}
    (h : s.rest a = .done answer) : s = returned answer := by
  cases s with
  | reading =>
    obtain ⟨operation, now⟩ := a
    cases operation with
    | request module target => cases h
    | clear name => cases h
  | rereading => cases h
  | clearing entry => cases h
  | starting target outcome => cases h
  | returned r =>
    cases h
    rfl

end Stage

/-! ## Stages of many operations -/

/-- The schedule of operations, each seen through its stages. -/
def stages (mayJoin : Asked → Prop) (mayFail : Call → Prop) : Schedule Asked Stage :=
  ⟨mayJoin, fun _ => .reading, Stage.Moves mayFail⟩

/-- Every run of operations side by side is a run through their stages. -/
theorem exists_stages {mayJoin : Asked → Prop} {mayFail : Call → Prop} {m : Memory}
    {q : Pool Asked Rest}
    (h : (Pool.onlyMemory m).Runs (Store.called Asked.program mayJoin mayFail) q) :
    ∃ p, (Pool.onlyMemory m).Runs (stages mayJoin mayFail) p ∧ q = p.map fun a s => s.rest a := by
  have hm : ∀ a s m₁ y m₂, Called mayFail (Stage.rest a s) m₁ y m₂ →
      ∃ s', y = s'.rest a ∧ s.Moves mayFail a m₁ s' m₂ :=
    fun _ _ _ _ _ hc => Stage.exists_moves_of_called hc
  exact Pool.Runs.map (s := stages mayJoin mayFail) (f := fun a s => Stage.rest a s)
    (fun _ hi => hi) (fun _ => rfl) hm h

end ChassisAdmin.Guard
