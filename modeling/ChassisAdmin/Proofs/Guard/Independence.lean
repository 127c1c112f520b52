import ChassisAdmin.Proofs.Guard.Operation
import ChassisAdmin.Proofs.Store.Confinement

/-!
# Different modules do not interact

Any number of clients may work on one CONFIG_DB, each with a guard of its own:
of either platform and at its own reading of the clock.  A `Job` is what one
client does, and all its calls are on the record of one module
(`asks_carryOut`).

The raw key of a record tells the module, whatever characters its name has.  So
jobs on different modules have different keys, and each ends as it would alone
(`isolated_of_distinct`).
-/

namespace ChassisAdmin.Guard

open Store (Memory Call Answer Pool Process)

/-! ## Jobs -/

/-- An operation of a client and the guard it is asked of. -/
structure Job where
  guard : Guard
  operation : Operation

namespace Job

/-- The name of the module of a job. -/
abbrev name (j : Job) : String := j.operation.name

/-- The raw key of the record of the module. -/
def key (j : Job) : String := Module.recordKey j.name

/-- What a client runs. -/
def client (j : Job) : Store.Client (Option TransitionOutcome) := j.guard.carryOut j.operation

end Job

/-! ## Calls on one record -/

theorem asks_entry (name : String) : (entry name).Asks (Call.On (Module.recordKey name)) :=
  Attempt.asks_request (by rfl) id

theorem asks_setEntry (name : String) (fields : Option Fields) :
    (Store.setEntry Module.table name fields).Asks (Call.On (Module.recordKey name)) :=
  Attempt.asks_request (by rfl) id

theorem asks_clearTransition (name : String) :
    (clearTransition name).Asks (Call.On (Module.recordKey name)) :=
  Attempt.asks_bind (asks_entry name) fun _ => asks_setEntry name _

theorem asks_requestTransition (g : Guard) (module : ModuleName) (target : AdminStatus) :
    (g.requestTransition module target).Asks (Call.On (Module.recordKey module.name)) := by
  have hwrite : ∀ (fields : Option Fields) (o : TransitionOutcome),
      (do Store.setEntry Module.table module.name fields; return o : Store.Client _).Asks
        (Call.On (Module.recordKey module.name)) := fun fields o =>
    Attempt.asks_bind (asks_setEntry module.name fields) fun _ => Attempt.asks_pure o
  refine Attempt.asks_bind (asks_entry module.name) ?_
  intro entry
  split
  · exact Attempt.asks_pure _
  split
  · exact hwrite _ _
  split
  · exact hwrite _ _
  split
  · exact Attempt.asks_bind (asks_clearTransition module.name) fun _ => hwrite _ _
  · exact Attempt.asks_pure _

/-- All calls of a job are on the record of its module. -/
theorem asks_carryOut (j : Job) : j.client.Asks (Call.On j.key) := by
  obtain ⟨g, op⟩ := j
  cases op with
  | request module target =>
    exact Attempt.asks_bind (asks_requestTransition g module target) fun _ => Attempt.asks_pure _
  | clear name => exact Attempt.asks_bind (asks_clearTransition name) fun _ => Attempt.asks_pure _

/-! ## Jobs side by side -/

/-- What is left of a job between two of its calls. -/
abbrev JobRest : Type := Program Call Answer (Except SystemError (Option TransitionOutcome))

/-- Jobs that make their calls one at a time, none of which is refused. -/
abbrev jobs : Store.Schedule Job JobRest :=
  Store.called (fun j => j.client.run) (fun _ => True) fun _ => False

/-- Jobs on different modules, in whatever order their calls are made, all come to their ends.
Each ends with the answer and the record of its module as it would alone on the database as it was
at first, and every other record stays as it is. -/
theorem isolated_of_distinct (m : Memory) (p : Pool Job JobRest)
    (hp : (Pool.onlyMemory m).Runs jobs p)
    (hd : (p.processes.map fun x => x.label.name).Nodup) :
    (∀ x ∈ p.processes, ∀ r, x.state = .done r →
      r = (x.label.client.onMemory m).1 ∧
        p.memory.record Module.table x.label.name =
          (x.label.client.onMemory m).2.record Module.table x.label.name) ∧
    (∀ k, (∀ x ∈ p.processes, Module.recordKey x.label.name ≠ k) →
      p.memory.records.get? k = m.records.get? k) ∧
    ∃ q, p.Runs jobs q ∧ (∀ x ∈ q.processes, ∃ r, x.state = .done r) ∧
      q.processes.map (·.label) = p.processes.map (·.label) := by
  have hkeys : (p.processes.map (Pool.keyOf Job.key)).Nodup := by
    have h := hd.map (f := Module.recordKey) fun _ _ h => Store.rawKey_injective Module.table h
    rwa [List.map_map] at h
  have hiso := Pool.Runs.isolated asks_carryOut hp hkeys
  refine ⟨?_, hiso.frame, Pool.exists_runs_finished p⟩
  intro x hx r hr
  have hvalue := hiso.value x hx
  have hrecord := hiso.record x hx
  rw [hr] at hvalue hrecord
  exact ⟨hvalue, hrecord⟩

/-- A module whose name goes on where the name of another ends. -/
def dpu0Bar : ModuleName := ⟨"DPU0|1", .dpu, by decide⟩

/-- A data processing unit of a smartswitch is to come up. -/
def upJob : Job := ⟨⟨true, Time.DateTime.ofUnix 0⟩, .request .dpu0 .up⟩

/-- A module of a standard chassis is to go down. -/
def downJob : Job := ⟨⟨false, Time.DateTime.ofUnix 1⟩, .request dpu0Bar .down⟩

/-- Both jobs have read before either wrote, and both have ended. -/
def bothWritten : Pool Job JobRest where
  memory := Module.withRecord
    (Module.withRecord Memory.empty "DPU0" (some (upJob.guard.startedRecord .up))) "DPU0|1"
    (plainRecord .down)
  processes := [⟨downJob, .done (.ok (some .applied))⟩, ⟨upJob, .done (.ok (some .applied))⟩]

theorem runs_bothWritten : (Pool.onlyMemory Memory.empty).Runs jobs bothWritten := by
  have hr : ∀ c m, Store.Reply (fun _ => False) c m _ _ := fun c m => .answered c m
  have h₀ : (Pool.onlyMemory Memory.empty).Runs jobs _ := .refl
  have h₁ := h₀.tail (.join upJob trivial _ _)
  have h₂ := h₁.tail (.join downJob trivial _ _)
  have h₃ := h₂.tail (.move [_] _ (.call (hr (.getEntry Module.table "DPU0") _)))
  have h₄ := h₃.tail (.move [] _ (.call (hr (.getEntry Module.table "DPU0|1") _)))
  have h₅ := h₄.tail (.move [_] _ (.call (hr (.setEntry _ _ (some (startedRecord _ .up))) _)))
  have h₆ := h₅.tail (.move [] _ (.call (hr (.setEntry _ _ (plainRecord .down)) _)))
  exact h₆

theorem isolated_of_distinct_barInName :
    (Pool.onlyMemory Memory.empty).Runs jobs bothWritten ∧
      (bothWritten.processes.map fun x => x.label.name).Nodup ∧
      (upJob.client.onMemory Memory.empty).1 = .ok (some .applied) ∧
      bothWritten.memory.record Module.table "DPU0" =
        (upJob.client.onMemory Memory.empty).2.record Module.table "DPU0" ∧
      bothWritten.memory.record Module.table "DPU0|1" =
        (downJob.client.onMemory Memory.empty).2.record Module.table "DPU0|1" := by
  have hd : (bothWritten.processes.map fun x => x.label.name).Nodup := by decide
  obtain ⟨halone, _, _⟩ := isolated_of_distinct Memory.empty bothWritten runs_bothWritten hd
  obtain ⟨hup, hrecord⟩ := halone ⟨upJob, _⟩ (List.mem_cons_of_mem _ List.mem_cons_self) _ rfl
  exact ⟨runs_bothWritten, hd, hup.symm, hrecord,
    (halone ⟨downJob, _⟩ List.mem_cons_self _ rfl).2⟩

end ChassisAdmin.Guard
