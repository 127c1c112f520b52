import ChassisAdmin.Proofs.Guard.Stage

/-!
# Paired fields

A record is `Paired` if its names are distinct and it has a start time exactly
when it says that a change is under way.  Everything the guard of a smartswitch
writes is paired: a started record has both fields, and a cleared one has the
flag `False` and no start time.

A clearing writes back a record that it has read, and other operations may have
written it in between.  So what an operation has read has to be paired as well.
`PairedStages` says that of every operation in a pool, and each move keeps it.
-/

namespace ChassisAdmin.Guard

open Store (Memory Call Pool Process)
open ChassisAdmin.Module (recordIn withRecord)

/-- A record that tells of the start of a change and of the change together. -/
structure Paired (l : Fields) : Prop where
  nodup : l.names.Nodup
  start_iff : (l.get? Module.startTimeField).isSome ↔ l.get? Module.inProgressField = some "True"

/-- All records of modules are paired. -/
def PairedIn (m : Memory) : Prop := ∀ name l, m.record Module.table name = some l → Paired l

/-! ## Records that the guard writes -/

theorem paired_startedRecord (g : Guard) (target : AdminStatus) : Paired (g.startedRecord target) where
  nodup := by
    change [Module.adminStatusField, Module.inProgressField, Module.startTimeField].Nodup
    decide
  start_iff := ⟨fun _ => rfl, fun _ => rfl⟩

/-- Clearing a record with distinct names takes its start time out for good. -/
theorem paired_clearedRecord {entry : Option Fields} (h : ∀ l, entry = some l → Paired l) :
    Paired (clearedRecord entry) := by
  have hentry : (entry.getD []).names.Nodup := by
    cases entry with
    | none => exact List.nodup_nil
    | some l => exact (h l rfl).nodup
  have hset := Fields.nodup_set hentry Module.inProgressField (flagText false)
  have hstart : (clearedRecord entry).get? Module.startTimeField = none :=
    Fields.get?_erase_self hset Module.startTimeField
  refine ⟨Fields.nodup_erase hset _, ?_⟩
  rw [hstart, get?_clearedRecord_inProgress]
  decide

theorem PairedIn.of_recordIn {m : Memory} (hm : PairedIn m) {name : String} {l : Fields}
    (h : recordIn m name = some l) : Paired l := by
  obtain ⟨l', hl', hne⟩ := Option.bind_eq_some_iff.1 h
  unfold Memory.nonempty at hne
  split at hne
  · cases hne
  · cases hne
    exact hm name l hl'

theorem PairedIn.withRecord {m : Memory} (hm : PairedIn m) {name : String} {l : Fields}
    (hl : Paired l) : PairedIn (withRecord m name (some l)) := by
  intro j l' h
  rw [Module.withRecord, Memory.record_put] at h
  split at h
  · rw [Option.bind_some, Memory.nonempty] at h
    split at h
    · cases h
    · cases h
      exact hl
  · exact hm j l' h

/-! ## Operations side by side -/

/-- All records are paired, and so is what operations have read in order to clear it. -/
structure PairedStages (p : Pool Asked Stage) : Prop where
  memory : PairedIn p.memory
  read : ∀ x ∈ p.processes, ∀ l, x.state = .clearing (some l) → Paired l

variable {mayJoin : Asked → Prop} {mayFail : Call → Prop}

/-- One move keeps the records paired and reads paired records only. -/
theorem PairedIn.of_moves {a : Asked} {s s' : Stage} {m m' : Memory} (hm : PairedIn m)
    (hs : ∀ l, s = .clearing (some l) → Paired l) (h : s.Moves mayFail a m s' m') :
    PairedIn m' ∧ ∀ l, s' = .clearing (some l) → Paired l := by
  cases h with
  | failed | settled | free | abandoned => exact ⟨hm, fun _ h => nomatch h⟩
  | read | reread =>
    refine ⟨hm, ?_⟩
    intro l h
    exact hm.of_recordIn (Stage.clearing.inj h)
  | reclaimed | cleared =>
    refine ⟨hm.withRecord (paired_clearedRecord ?_), fun _ h => nomatch h⟩
    rintro l rfl
    exact hs l rfl
  | started => exact ⟨hm.withRecord (paired_startedRecord _ _), fun _ h => nomatch h⟩

theorem PairedStages.of_step {p q : Pool Asked Stage} (h : Pool.Step (stages mayJoin mayFail) p q)
    (hp : PairedStages p) : PairedStages q := by
  cases h with
  | join i hi m l =>
    refine ⟨hp.memory, ?_⟩
    intro x hx
    rcases List.mem_cons.1 hx with rfl | hx
    · exact fun _ h => nomatch h
    · exact hp.read x hx
  | @move i s s' m m' a b h =>
    have hs : ∀ l, s = .clearing (some l) → Paired l :=
      hp.read ⟨i, s⟩ (List.mem_append_right a List.mem_cons_self)
    obtain ⟨hm', hs'⟩ := PairedIn.of_moves hp.memory hs h
    refine ⟨hm', ?_⟩
    intro x hx
    rcases Pool.eq_or_mem_of_mem_moved hx ⟨i, s⟩ with rfl | hx
    · exact hs'
    · exact hp.read x hx

/-- Operations side by side keep all records paired, whatever calls are refused. -/
theorem PairedIn.of_runs {m : Memory} {q : Pool Asked Rest} (hm : PairedIn m)
    (h : (Pool.onlyMemory m).Runs (Store.called Asked.program mayJoin mayFail) q) :
    PairedIn q.memory := by
  obtain ⟨p, hp, rfl⟩ := exists_stages h
  have h₀ : PairedStages (Pool.onlyMemory m) := ⟨hm, fun _ hx => nomatch hx⟩
  exact (hp.invariant PairedStages PairedStages.of_step h₀).memory

end ChassisAdmin.Guard
