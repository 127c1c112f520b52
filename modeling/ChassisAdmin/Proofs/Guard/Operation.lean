import ChassisAdmin.Proofs.Guard.Request
import ChassisAdmin.Proofs.Time.Reading

/-!
# Operations on the guard of a smartswitch

Two calls on a guard write: a request for a change of a module's status and the
clearing of the change under way.  An `Operation` is one of them, and at a
reading of the clock it is a program on CONFIG_DB.  `operated_of_ends` puts the
ends of both into one list, `Operated`.
-/

namespace ChassisAdmin

/-- A data processing unit. -/
def ModuleName.dpu0 : ModuleName := ⟨"DPU0", .dpu, by decide⟩

namespace Guard

open Store (Memory Call)
open ChassisAdmin.Module (recordIn withRecord)
open Time (DateTime Reading)

/-- A call on the guard of a smartswitch that may write. -/
inductive Operation where
  | request (module : ModuleName) (target : AdminStatus)
  | clear (name : String)

namespace Operation

/-- The module of an operation. -/
def name : Operation → String
  | request module _ => module.name
  | clear name => name

/-- The program of an operation at an instant.  A request answers with its outcome. -/
def program (now : DateTime) : Operation → Store.Client (Option TransitionOutcome)
  | request module target => do
      let outcome ← requestTransition ⟨true, now⟩ module target
      return some outcome
  | clear name => do
      clearTransition name
      return none

end Operation

/-- The program of an operation on any guard. -/
def carryOut (g : Guard) : Operation → Store.Client (Option TransitionOutcome)
  | .request module target => do
      let outcome ← g.requestTransition module target
      return some outcome
  | .clear name => do
      clearTransition name
      return none

/-- The ends of an operation on a database. -/
inductive Operated (mayFail : Call → Prop) (now : DateTime) (m m' : Memory) :
    Operation → Except SystemError (Option TransitionOutcome) → Prop where
  | request {module : ModuleName} {target : AdminStatus} {r : Except SystemError TransitionOutcome}
      (h : Requested mayFail ⟨true, now⟩ module.name target m r m') :
      Operated mayFail now m m' (.request module target) (r.map some)
  | clear {name : String} {r : Except SystemError Unit} (h : Cleared mayFail name m r m') :
      Operated mayFail now m m' (.clear name) (r.map fun _ => none)

variable {mayFail : Call → Prop} {now : DateTime} {m m' : Memory}

/-! ## Only the record of the module -/

theorem Requested.recordIn_of_ne {g : Guard} {name : String} {target : AdminStatus}
    {r : Except SystemError TransitionOutcome} (h : Requested mayFail g name target m r m')
    {j : String} (hj : name ≠ j) : recordIn m' j = recordIn m j := by
  cases h with
  | failed | same | rejected => rfl
  | plain | started | halfway => exact Memory.entry_put_of_ne _ _ _ hj
  | reclaimed =>
    exact (Memory.entry_put_of_ne _ _ _ hj).trans (Memory.entry_put_of_ne _ _ _ hj)

theorem Cleared.recordIn_of_ne {name : String} {r : Except SystemError Unit}
    (h : Cleared mayFail name m r m') {j : String} (hj : name ≠ j) :
    recordIn m' j = recordIn m j := by
  cases h with
  | failed => rfl
  | cleared => exact Memory.entry_put_of_ne _ _ _ hj

/-- An operation leaves the records of all other modules as they are. -/
theorem Operated.recordIn_of_ne {op : Operation}
    {r : Except SystemError (Option TransitionOutcome)} (h : Operated mayFail now m m' op r)
    {j : String} (hj : op.name ≠ j) : recordIn m' j = recordIn m j := by
  cases h with
  | request h => exact h.recordIn_of_ne hj
  | clear h => exact h.recordIn_of_ne hj

/-! ## Ends of an operation -/

/-- A program whose value is only wrapped up ends where it ended before. -/
theorem exists_ends_of_wrapped {α β : Type} {p : Store.Client α} {f : α → β}
    {r : Except SystemError β}
    (h : Store.Client.Ends mayFail (do let a ← p; return f a) m r m') :
    ∃ r', Store.Client.Ends mayFail p m r' m' ∧ r = r'.map f := by
  rcases Store.Client.ends_bind_iff.1 h with ⟨e, hp, rfl⟩ | ⟨a, m₁, hp, hr⟩
  · exact ⟨.error e, hp, rfl⟩
  · obtain ⟨rfl, rfl⟩ := Store.Client.ends_pure_iff.1 hr
    exact ⟨.ok a, hp, rfl⟩

theorem operated_of_ends {op : Operation} {r : Except SystemError (Option TransitionOutcome)}
    (h : Store.Client.Ends mayFail (op.program now) m r m') : Operated mayFail now m m' op r := by
  cases op with
  | request module target =>
    obtain ⟨r', hr, rfl⟩ := exists_ends_of_wrapped h
    exact .request (requested_of_ends hr)
  | clear name =>
    obtain ⟨r', hr, rfl⟩ := exists_ends_of_wrapped h
    exact .clear (cleared_of_ends hr)

/-- A started change is abandoned exactly when it is overdue. -/
theorem isAbandoned_truncated (start now : Reading) :
    isAbandoned ⟨true, now.time⟩ start.time.truncated = decide (start.Overdue now) := by
  rw [isAbandoned, Reading.since_truncated]
  rfl

end Guard

end ChassisAdmin
