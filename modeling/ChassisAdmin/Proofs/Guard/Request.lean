import ChassisAdmin.Guard
import ChassisAdmin.Proofs.Store.Refusal
import ChassisAdmin.Proofs.Time.Timestamp

/-!
# What the guard does to a database

The guard is a program of up to four calls.  Seen from outside, on a database
that may refuse some of them, a request has seven ends and a clearing has two.
They are listed by `Guard.Requested` and `Guard.Cleared`, and
`requested_of_ends` and `cleared_of_ends` say that there are no others.  All
further facts about the guard are read off the two lists.

The first section says how the records that the guard writes look when the guard
reads them back.  Only a started record tells of a change under way, and what it
tells of the start is the reading of the clock cut off at microseconds.
-/

namespace ChassisAdmin

open Store (Memory Call)

namespace Module

/-- The record of a module as the guard reads it. -/
abbrev recordIn (m : Memory) (name : String) : Option Fields := m.entry table name

/-- The database with another record of a module. -/
abbrev withRecord (m : Memory) (name : String) (fields : Option Fields) : Memory :=
  m.put table name fields

end Module

namespace Guard

open ChassisAdmin.Module (recordIn withRecord)

/-! ## Records read back -/

section Records

variable (g g' : Guard) (target : AdminStatus) (entry : Option Fields)

theorem nonempty_startedRecord :
    Memory.nonempty (g.startedRecord target) = some (g.startedRecord target) := rfl

theorem adminStatusOf_startedRecord : g.adminStatusOf (some (g'.startedRecord target)) = target := by
  change (AdminStatus.ofText? target.text).getD _ = target
  rw [AdminStatus.ofText?_text]
  rfl

theorem inProgressOf_startedRecord : inProgressOf (some (g.startedRecord target)) = true := by
  change flagOfText (flagText true) = true
  exact flagOfText_flagText true

theorem startTimeOf_startedRecord :
    startTimeOf (some (g.startedRecord target)) = some (Time.formatTimestamp g.now) := rfl

/-- The start that a record tells of is the reading it was written at, cut off at microseconds. -/
theorem timedOutOf_of_startTime {start : Time.DateTime}
    (h : startTimeOf entry = some (Time.formatTimestamp start)) :
    g.timedOutOf entry = g.isAbandoned start.truncated := by
  rw [timedOutOf, h, Option.bind_some, Time.parseTimestamp_formatTimestamp]
  rfl

theorem get?_clearedRecord_of_ne {f : String} (hp : f ≠ Module.inProgressField)
    (hs : f ≠ Module.startTimeField) :
    (clearedRecord entry).get? f = (entry.getD []).get? f := by
  rw [clearedRecord, Fields.get?_erase_of_ne _ hs, Fields.get?_set_of_ne _ _ hp]

theorem get?_clearedRecord_inProgress :
    (clearedRecord entry).get? Module.inProgressField = some (flagText false) := by
  rw [clearedRecord, Fields.get?_erase_of_ne _ (by decide), Fields.get?_set_self]

theorem nonempty_clearedRecord :
    Memory.nonempty (clearedRecord entry) = some (clearedRecord entry) := by
  apply Memory.nonempty_of_ne_nil
  intro h
  have := get?_clearedRecord_inProgress entry
  rw [h] at this
  cases this

theorem adminStatusOf_clearedRecord :
    g.adminStatusOf (some (clearedRecord entry)) = g.adminStatusOf entry := by
  have h : (clearedRecord entry).get? Module.adminStatusField =
      (entry.getD []).get? Module.adminStatusField :=
    get?_clearedRecord_of_ne entry (by decide) (by decide)
  cases entry with
  | none => simp only [adminStatusOf, Option.bind_some, h]; rfl
  | some l => simp only [adminStatusOf, Option.bind_some, h, Option.getD_some]

theorem inProgressOf_clearedRecord : inProgressOf (some (clearedRecord entry)) = false := by
  simp only [inProgressOf, Option.bind_some, get?_clearedRecord_inProgress]
  exact flagOfText_flagText false

theorem adminStatusOf_plainRecord (h : g.smartswitch = false) :
    g.adminStatusOf ((plainRecord target).bind Memory.nonempty) = target := by
  cases target with
  | up => simp only [adminStatusOf, plainRecord, h]; rfl
  | down => rfl

end Records

/-! ## Ends of a request -/

/-- The ends of a request on a database.  Only the last two write twice: a request that finds an
abandoned change clears it first, and may fail after that. -/
inductive Requested (mayFail : Call → Prop) (g : Guard) (name : String) (target : AdminStatus)
    (m : Memory) : Except SystemError TransitionOutcome → Memory → Prop where
  /-- A call fails before anything is written. -/
  | failed (e : SystemError) (hf : ∃ c, mayFail c) : Requested mayFail g name target m (.error e) m
  /-- The module has the status already. -/
  | same (hs : g.adminStatusOf (recordIn m name) = target) :
      Requested mayFail g name target m (.ok .alreadyInTargetState) m
  /-- The status is written on a standard chassis. -/
  | plain (hs : g.adminStatusOf (recordIn m name) ≠ target) (hg : g.smartswitch = false) :
      Requested mayFail g name target m (.ok .applied) (withRecord m name (plainRecord target))
  /-- A change starts on a smartswitch. -/
  | started (hs : g.adminStatusOf (recordIn m name) ≠ target) (hg : g.smartswitch = true)
      (hp : inProgressOf (recordIn m name) = false) :
      Requested mayFail g name target m (.ok .applied)
        (withRecord m name (some (g.startedRecord target)))
  /-- Another change is under way. -/
  | rejected (hs : g.adminStatusOf (recordIn m name) ≠ target) (hg : g.smartswitch = true)
      (hp : inProgressOf (recordIn m name) = true)
      (ht : g.timedOutOf (recordIn m name) = false) :
      Requested mayFail g name target m (.ok .rejectedDuplicateInProgress) m
  /-- An abandoned change is cleared, and then a call fails. -/
  | halfway (e : SystemError) (hf : ∃ c, mayFail c) (hg : g.smartswitch = true)
      (hs : g.adminStatusOf (recordIn m name) ≠ target)
      (hp : inProgressOf (recordIn m name) = true) (ht : g.timedOutOf (recordIn m name) = true) :
      Requested mayFail g name target m (.error e)
        (withRecord m name (some (clearedRecord (recordIn m name))))
  /-- An abandoned change is cleared and a new one starts. -/
  | reclaimed (hs : g.adminStatusOf (recordIn m name) ≠ target) (hg : g.smartswitch = true)
      (hp : inProgressOf (recordIn m name) = true) (ht : g.timedOutOf (recordIn m name) = true) :
      Requested mayFail g name target m (.ok .appliedAfterTimeoutReclaim)
        (withRecord (withRecord m name (some (clearedRecord (recordIn m name)))) name
          (some (g.startedRecord target)))

/-- The ends of a clearing on a database. -/
inductive Cleared (mayFail : Call → Prop) (name : String) (m : Memory) :
    Except SystemError Unit → Memory → Prop where
  /-- A call fails before anything is written. -/
  | failed (e : SystemError) (hf : ∃ c, mayFail c) : Cleared mayFail name m (.error e) m
  /-- The change is cleared. -/
  | cleared : Cleared mayFail name m (.ok ())
      (withRecord m name (some (clearedRecord (recordIn m name))))

section Ends

variable {mayFail : Call → Prop} {g : Guard} {m m' : Memory}

open Store.Client (ends_bind_iff ends_getEntry_iff ends_setEntry_iff ends_pure_iff)

theorem cleared_of_ends {name : String} {r : Except SystemError Unit}
    (h : Store.Client.Ends mayFail (clearTransition name) m r m') : Cleared mayFail name m r m' := by
  rcases ends_bind_iff.1 h with ⟨e, hr, rfl⟩ | ⟨entry, m₁, hr, hw⟩
  · obtain ⟨rfl, hr | ⟨_, _, hf⟩⟩ := ends_getEntry_iff.1 hr
    · cases hr
    · exact .failed e ⟨_, hf⟩
  · obtain ⟨rfl, hr | ⟨_, hr, _⟩⟩ := ends_getEntry_iff.1 hr
    · cases hr
      rcases ends_setEntry_iff.1 hw with ⟨rfl, rfl⟩ | ⟨e, rfl, rfl, hf⟩
      · exact .cleared
      · exact .failed e ⟨_, hf⟩
    · cases hr

/-- A write that is followed by nothing but an answer. -/
theorem ends_write_iff {name : String} {fields : Option Fields} {o : TransitionOutcome}
    {r : Except SystemError TransitionOutcome} :
    Store.Client.Ends mayFail
        (do Store.setEntry Module.table name fields; return o) m r m' ↔
      (r = .ok o ∧ m' = withRecord m name fields) ∨
        ∃ e, r = .error e ∧ m' = m ∧ mayFail (.setEntry Module.table name fields) := by
  constructor
  · intro h
    rcases ends_bind_iff.1 h with ⟨e, hw, rfl⟩ | ⟨_, m₁, hw, hr⟩
    · rcases ends_setEntry_iff.1 hw with ⟨hw, _⟩ | ⟨e', hw, rfl, hf⟩
      · cases hw
      · exact .inr ⟨e, rfl, rfl, hf⟩
    · obtain ⟨rfl, rfl⟩ := ends_pure_iff.1 hr
      rcases ends_setEntry_iff.1 hw with ⟨_, rfl⟩ | ⟨e', hw, _⟩
      · exact .inl ⟨rfl, rfl⟩
      · cases hw
  · rintro (⟨rfl, rfl⟩ | ⟨e, rfl, rfl, hf⟩)
    · exact ends_bind_iff.2 (.inr ⟨(), _, ends_setEntry_iff.2 (.inl ⟨rfl, rfl⟩),
        ends_pure_iff.2 ⟨rfl, rfl⟩⟩)
    · exact ends_bind_iff.2 (.inl ⟨e, ends_setEntry_iff.2 (.inr ⟨e, rfl, rfl, hf⟩), rfl⟩)

theorem requested_of_ends {module : ModuleName} {target : AdminStatus}
    {r : Except SystemError TransitionOutcome}
    (h : Store.Client.Ends mayFail (g.requestTransition module target) m r m') :
    Requested mayFail g module.name target m r m' := by
  rcases ends_bind_iff.1 h with ⟨e, hr, rfl⟩ | ⟨entry, m₁, hr, h⟩
  · obtain ⟨rfl, hr | ⟨_, _, hf⟩⟩ := ends_getEntry_iff.1 hr
    · cases hr
    · exact .failed e ⟨_, hf⟩
  obtain ⟨rfl, hr⟩ := ends_getEntry_iff.1 hr
  have he : entry = recordIn m₁ module.name := by
    rcases hr with hr | ⟨_, hr, _⟩
    · cases hr
      rfl
    · cases hr
  subst he
  -- The record is read.  From here on the cases are those of the program.
  by_cases hs : g.adminStatusOf (recordIn m₁ module.name) = target
  · rw [if_pos hs] at h
    obtain ⟨rfl, rfl⟩ := ends_pure_iff.1 h
    exact .same hs
  rw [if_neg hs] at h
  cases hg : g.smartswitch with
  | false =>
    rw [if_pos (by rw [hg]; rfl)] at h
    rcases ends_write_iff.1 h with ⟨rfl, rfl⟩ | ⟨e, rfl, rfl, hf⟩
    · exact .plain hs hg
    · exact .failed e ⟨_, hf⟩
  | true =>
    rw [if_neg (by rw [hg]; decide)] at h
    cases hp : inProgressOf (recordIn m₁ module.name) with
    | false =>
      rw [if_pos (by rw [hp]; rfl)] at h
      rcases ends_write_iff.1 h with ⟨rfl, rfl⟩ | ⟨e, rfl, rfl, hf⟩
      · exact .started hs hg hp
      · exact .failed e ⟨_, hf⟩
    | true =>
      rw [if_neg (by rw [hp]; decide)] at h
      cases ht : g.timedOutOf (recordIn m₁ module.name) with
      | false =>
        rw [if_neg (by rw [ht]; decide)] at h
        obtain ⟨rfl, rfl⟩ := ends_pure_iff.1 h
        exact .rejected hs hg hp ht
      | true =>
        rw [if_pos ht] at h
        rcases ends_bind_iff.1 h with ⟨e, hc, rfl⟩ | ⟨_, m₂, hc, hw⟩
        · cases cleared_of_ends hc with
          | failed _ hf => exact .failed e hf
        · cases cleared_of_ends hc with
          | cleared =>
            rcases ends_write_iff.1 hw with ⟨rfl, rfl⟩ | ⟨e, rfl, rfl, hf⟩
            · exact .reclaimed hs hg hp ht
            · exact .halfway e ⟨_, hf⟩ hg hs hp ht

end Ends

end Guard

end ChassisAdmin
