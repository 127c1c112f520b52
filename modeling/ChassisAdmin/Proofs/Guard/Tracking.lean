import ChassisAdmin.Proofs.Guard.Operation

/-!
# Traces of tracking on a standard chassis

Only a smartswitch tracks changes.  On a standard chassis a request writes a
record with nothing but the status, or deletes the record.  Clearing is the
exception: it writes the flag `False` on any platform, also into a record that
had none.

So on a CONFIG_DB without traces of tracking, no start of a change is ever
written, but flags are.  `tracking_of_standard` says when: the record of a module
has the flag exactly if the module was cleared and no request for it has been
applied since.  The flag never says that a change is under way.
`cleared_leaves_flag` is the smallest such run.
-/

namespace ChassisAdmin.Guard

open Store (Memory Call)
open ChassisAdmin.Module (recordIn withRecord)
open Time (DateTime)

/-! ## Runs on a standard chassis -/

/-- What can be asked of a guard: an operation or one of its questions about a module. -/
inductive Use where
  | operate (op : Operation)
  | status (name : String)
  | inProgress (name : String)
  | timedOut (name : String)
  | state (name : String)

/-- The program of a use.  Only a request has an answer that is kept. -/
def Use.program (g : Guard) : Use → Store.Client (Option TransitionOutcome)
  | operate op => g.carryOut op
  | status name => do
      let _ ← g.currentAdminStatus name
      return none
  | inProgress name => do
      let _ ← isInProgress name
      return none
  | timedOut name => do
      let _ ← g.isTimedOut name
      return none
  | state name => do
      let _ ← g.transitionState name
      return none

/-- A use at a reading of the clock, with its answer. -/
structure UseTurn where
  use : Use
  now : DateTime
  answer : Except SystemError (Option TransitionOutcome)

namespace UseTurn

/-- The change of a module was cleared. -/
def Clears (t : UseTurn) (name : String) : Prop :=
  t.use = .operate (.clear name) ∧ t.answer = .ok none

/-- A request for a module was applied. -/
def AppliedTo (t : UseTurn) (name : String) : Prop :=
  ∃ module target o, t.use = .operate (.request module target) ∧ module.name = name ∧
    t.answer = .ok (some o) ∧ o.isApplied = true

end UseTurn

/-- Uses of the guards of a standard chassis, one after the other, on a database that may refuse
some calls. -/
inductive StandardRun (mayFail : Call → Prop) : Memory → List UseTurn → Memory → Prop where
  | nil (m : Memory) : StandardRun mayFail m [] m
  | cons {t : UseTurn} {ts : List UseTurn} {m m₁ m₂ : Memory}
      (ht : Store.Client.Ends mayFail (t.use.program ⟨false, t.now⟩) m t.answer m₁)
      (hts : StandardRun mayFail m₁ ts m₂) : StandardRun mayFail m (t :: ts) m₂

/-! ## Fields of records -/

/-- The record of a module has a field. -/
def Carries (m : Memory) (name field : String) : Prop :=
  ∃ l, m.record Module.table name = some l ∧ l.has field = true

/-- No record of a module has a field that tracks a change. -/
def UntrackedIn (m : Memory) : Prop :=
  ∀ name, ¬Carries m name Module.inProgressField ∧ ¬Carries m name Module.startTimeField

variable {mayFail : Call → Prop} {m m' : Memory} {name field : String}

theorem carries_withRecord_iff {j : String} {fields : Option Fields} :
    Carries (withRecord m name fields) j field ↔
      if name = j then ∃ l, fields.bind Memory.nonempty = some l ∧ l.has field = true
      else Carries m j field := by
  unfold Carries
  rw [withRecord, Memory.record_put]
  split <;> rfl

/-- A status that is written on a standard chassis has no other field beside it. -/
theorem not_has_plainRecord {target : AdminStatus} {l : Fields}
    (h : (plainRecord target).bind Memory.nonempty = some l)
    (hf : field ≠ Module.adminStatusField) : l.has field = false := by
  cases target with
  | up => cases h
  | down =>
    cases h
    simp [Fields.has, hf.symm]

theorem has_clearedRecord_inProgress (entry : Option Fields) :
    (clearedRecord entry).has Module.inProgressField = true := by
  rw [Fields.has_eq_isSome, get?_clearedRecord_inProgress]
  rfl

/-- Clearing writes no start of a change. -/
theorem not_has_clearedRecord_startTime {entry : Option Fields}
    (h : ∀ l, entry = some l → l.has Module.startTimeField = false) :
    (clearedRecord entry).has Module.startTimeField = false := by
  have hentry : (entry.getD []).has Module.startTimeField = false := by
    cases entry with
    | none => rfl
    | some l => exact h l rfl
  rw [← Bool.not_eq_true, Fields.has_iff_mem_names] at hentry ⊢
  intro hmem
  -- `erase` takes out one field only, so the erasure alone would not do for any record.
  have hset := (Fields.names_erase_sublist _ _).subset hmem
  rw [Fields.names_set] at hset
  split at hset
  · exact hentry hset
  · rcases List.mem_append.1 hset with hset | hset
    · exact hentry hset
    · exact absurd (List.mem_singleton.1 hset) (by decide)

theorem has_of_recordIn {l : Fields} (h : recordIn m name = some l)
    (hc : ¬Carries m name field) : l.has field = false := by
  obtain ⟨l', hl', hne⟩ := Option.bind_eq_some_iff.1 h
  rw [← Bool.not_eq_true]
  intro hf
  unfold Memory.nonempty at hne
  split at hne
  · cases hne
  · cases hne
    exact hc ⟨l, hl', hf⟩

/-! ## One use -/

/-- What a use of the guard of a standard chassis does to the database. -/
inductive Used (m : Memory) (t : UseTurn) : Memory → Prop where
  /-- Nothing is written. -/
  | spared (hc : ∀ name, ¬t.Clears name) (ha : ∀ name, ¬t.AppliedTo name) : Used m t m
  /-- A status is written. -/
  | applied (module : ModuleName) (target : AdminStatus) (hc : ∀ name, ¬t.Clears name)
      (ha : ∀ name, t.AppliedTo name ↔ module.name = name) :
      Used m t (withRecord m module.name (plainRecord target))
  /-- A change is cleared. -/
  | cleared (name : String) (hc : ∀ j, t.Clears j ↔ name = j) (ha : ∀ j, ¬t.AppliedTo j) :
      Used m t (withRecord m name (some (clearedRecord (recordIn m name))))

/-- A question leaves the database as it is. -/
theorem eq_of_ends_question {α β : Type} {f : Option Fields → α} {b : β}
    {r : Except SystemError β}
    (h : Store.Client.Ends mayFail (do let _ ← (do return f (← entry name)); return b) m r m') :
    m' = m := by
  obtain ⟨_, hq, _⟩ := exists_ends_of_wrapped h
  obtain ⟨_, hentry, _⟩ := exists_ends_of_wrapped hq
  exact (Store.Client.ends_getEntry_iff.1 hentry).1

theorem used_of_request {module : ModuleName} {target : AdminStatus} {now : DateTime}
    {r : Except SystemError TransitionOutcome}
    (h : Requested mayFail ⟨false, now⟩ module.name target m r m') :
    Used m ⟨.operate (.request module target), now, r.map some⟩ m' := by
  have hc : ∀ (a : Except SystemError (Option TransitionOutcome)) name,
      ¬UseTurn.Clears ⟨.operate (.request module target), now, a⟩ name := nofun
  cases h with
  | failed e => exact .spared (hc _) nofun
  | same => exact .spared (hc _) (by rintro name ⟨_, _, _, _, _, ⟨⟩, ⟨⟩⟩)
  | plain =>
    refine .applied module target (hc _) fun name => ⟨?_, ?_⟩
    · rintro ⟨_, _, _, ⟨⟩, hname, _⟩
      exact hname
    · exact fun hname => ⟨module, target, .applied, rfl, hname, rfl, rfl⟩
  | started _ hg | rejected _ hg | halfway _ _ hg | reclaimed _ hg => cases hg

theorem used_of_clear {now : DateTime} {r : Except SystemError Unit}
    (h : Cleared mayFail name m r m') :
    Used m ⟨.operate (.clear name), now, r.map fun _ => none⟩ m' := by
  have ha : ∀ (a : Except SystemError (Option TransitionOutcome)) j,
      ¬UseTurn.AppliedTo ⟨.operate (.clear name), now, a⟩ j := by
    rintro a j ⟨_, _, _, ⟨⟩, _⟩
  cases h with
  | failed e => exact .spared nofun (ha _)
  | cleared =>
    refine .cleared name (fun j => ⟨?_, ?_⟩) (ha _)
    · rintro ⟨⟨⟩, _⟩
      rfl
    · rintro rfl
      exact ⟨rfl, rfl⟩

theorem used_of_ends {t : UseTurn}
    (h : Store.Client.Ends mayFail (t.use.program ⟨false, t.now⟩) m t.answer m') :
    Used m t m' := by
  obtain ⟨use, now, answer⟩ := t
  cases use with
  | operate op =>
    cases op with
    | request module target =>
      obtain ⟨r, hr, rfl⟩ := exists_ends_of_wrapped h
      exact used_of_request (requested_of_ends hr)
    | clear name =>
      obtain ⟨r, hr, rfl⟩ := exists_ends_of_wrapped h
      exact used_of_clear (cleared_of_ends hr)
  | status | inProgress | timedOut | state =>
    obtain rfl := eq_of_ends_question h
    exact .spared nofun nofun

/-- A use writes no start of a change. -/
theorem Used.not_carries_startTime {t : UseTurn} (h : Used m t m')
    (hm : ∀ name, ¬Carries m name Module.startTimeField) :
    ∀ name, ¬Carries m' name Module.startTimeField := by
  intro j
  cases h with
  | spared => exact hm j
  | applied module target =>
    rw [carries_withRecord_iff]
    split
    · rintro ⟨l, hl, hf⟩
      exact absurd hf (by rw [not_has_plainRecord hl (by decide)]; decide)
    · exact hm j
  | cleared name =>
    rw [carries_withRecord_iff]
    split
    · rintro ⟨l, hl, hf⟩
      rw [Option.bind_some, nonempty_clearedRecord] at hl
      cases hl
      rw [not_has_clearedRecord_startTime fun l hl => has_of_recordIn hl (hm name)] at hf
      cases hf
    · exact hm j

/-- After a use a record has the flag if the module was cleared, or if it had the flag and no
request for the module was applied. -/
theorem Used.carries_inProgress_iff {t : UseTurn} (h : Used m t m') (j : String) :
    Carries m' j Module.inProgressField ↔
      t.Clears j ∨ Carries m j Module.inProgressField ∧ ¬t.AppliedTo j := by
  cases h with
  | spared hc ha => simp [hc, ha]
  | applied module target hc ha =>
    rw [carries_withRecord_iff]
    split
    · next hname =>
      refine ⟨?_, ?_⟩
      · rintro ⟨l, hl, hf⟩
        exact absurd hf (by rw [not_has_plainRecord hl (by decide)]; decide)
      · rintro (hclear | ⟨_, hnot⟩)
        · exact absurd hclear (hc j)
        · exact absurd ((ha j).2 hname) hnot
    · next hname => simp [hc, ha, hname]
  | cleared name hc ha =>
    rw [carries_withRecord_iff]
    split
    · next hname =>
      refine ⟨fun _ => .inl ((hc j).2 hname), fun _ => ?_⟩
      exact ⟨_, nonempty_clearedRecord _, has_clearedRecord_inProgress _⟩
    · next hname => simp [hc, ha, hname]

/-- No use of the guard of a standard chassis says that a change is under way. -/
theorem Used.inProgressOf {t : UseTurn} (h : Used m t m')
    (hm : ∀ name, Guard.inProgressOf (recordIn m name) = false) :
    ∀ name, Guard.inProgressOf (recordIn m' name) = false := by
  intro j
  cases h with
  | spared => exact hm j
  | applied module target =>
    rw [recordIn, Memory.entry_put]
    split
    · cases target with
      | up | down => rfl
    · exact hm j
  | cleared name =>
    rw [recordIn, Memory.entry_put]
    split
    · rw [Option.bind_some, nonempty_clearedRecord]
      exact inProgressOf_clearedRecord _
    · exact hm j

/-! ## Whole runs -/

/-- Something of one kind has happened, and nothing of another kind since. -/
def Since {α : Type} (P Q : α → Prop) (l : List α) : Prop :=
  ∃ a x b, l = a ++ x :: b ∧ P x ∧ ∀ y ∈ b, ¬Q y

theorem since_cons_iff {α : Type} {P Q : α → Prop} {x : α} {l : List α} :
    Since P Q (x :: l) ↔ (P x ∧ ∀ y ∈ l, ¬Q y) ∨ Since P Q l := by
  constructor
  · rintro ⟨a, y, b, hl, hy, hb⟩
    rcases List.cons_eq_append_iff.1 hl with ⟨rfl, hcons⟩ | ⟨a, rfl, rfl⟩
    · cases hcons
      exact .inl ⟨hy, hb⟩
    · exact .inr ⟨a, y, b, rfl, hy, hb⟩
  · rintro (⟨hx, hl⟩ | ⟨a, y, b, rfl, hy, hb⟩)
    · exact ⟨[], x, l, rfl, hx, hl⟩
    · exact ⟨x :: a, y, b, rfl, hy, hb⟩

theorem StandardRun.not_carries_startTime {ts : List UseTurn} (h : StandardRun mayFail m ts m')
    (hm : ∀ name, ¬Carries m name Module.startTimeField) :
    ∀ name, ¬Carries m' name Module.startTimeField := by
  induction h with
  | nil => exact hm
  | cons ht _ ih => exact ih ((used_of_ends ht).not_carries_startTime hm)

theorem StandardRun.inProgressOf {ts : List UseTurn} (h : StandardRun mayFail m ts m')
    (hm : ∀ name, Guard.inProgressOf (recordIn m name) = false) :
    ∀ name, Guard.inProgressOf (recordIn m' name) = false := by
  induction h with
  | nil => exact hm
  | cons ht _ ih => exact ih ((used_of_ends ht).inProgressOf hm)

theorem StandardRun.carries_inProgress_iff {ts : List UseTurn} (h : StandardRun mayFail m ts m')
    (name : String) :
    Carries m' name Module.inProgressField ↔
      Since (·.Clears name) (·.AppliedTo name) ts ∨
        Carries m name Module.inProgressField ∧ ∀ t ∈ ts, ¬t.AppliedTo name := by
  induction h with
  | nil m => simp [Since]
  | @cons t ts m m₁ m₂ ht _ ih =>
    rw [ih, (used_of_ends ht).carries_inProgress_iff, since_cons_iff, List.forall_mem_cons,
      or_and_right, and_assoc, or_left_comm, or_assoc]

theorem UntrackedIn.inProgressOf (h : UntrackedIn m) (name : String) :
    Guard.inProgressOf (recordIn m name) = false := by
  cases hentry : recordIn m name with
  | none => rfl
  | some l =>
    have hl := has_of_recordIn hentry (h name).1
    rw [Fields.has_eq_isSome, Option.isSome_eq_false_iff, Option.isNone_iff_eq_none] at hl
    rw [Guard.inProgressOf, Option.bind_some, hl]
    rfl

/-- On a standard chassis whose CONFIG_DB had no traces of tracking, whatever calls are refused:
no record ever has a start time, and no module is ever seen in a change.  A record has the flag
exactly if its module was cleared and no request for it was applied since. -/
theorem tracking_of_standard {ts : List UseTurn} (hm : UntrackedIn m)
    (h : StandardRun (fun _ => True) m ts m') (name : String) :
    ¬Carries m' name Module.startTimeField ∧
      Guard.inProgressOf (recordIn m' name) = false ∧
      (Carries m' name Module.inProgressField ↔
        ∃ before t after, ts = before ++ t :: after ∧ t.Clears name ∧
          ∀ u ∈ after, ¬u.AppliedTo name) := by
  refine ⟨h.not_carries_startTime (fun name => (hm name).2) name,
    h.inProgressOf hm.inProgressOf name, ?_⟩
  rw [h.carries_inProgress_iff name]
  exact or_iff_left fun hflag => (hm name).1 hflag.1

/-! ## A flag that is left -/

theorem UntrackedIn.withRecord_plainRecord (h : UntrackedIn m) (target : AdminStatus) :
    UntrackedIn (withRecord m name (plainRecord target)) := by
  have hfield : ∀ {field j}, field ≠ Module.adminStatusField → ¬Carries m j field →
      ¬Carries (withRecord m name (plainRecord target)) j field := by
    intro field j hf hj
    rw [carries_withRecord_iff]
    split
    · rintro ⟨l, hl, hhas⟩
      exact absurd hhas (by rw [not_has_plainRecord hl hf]; decide)
    · exact hj
  exact fun j => ⟨hfield (by decide) (h j).1, hfield (by decide) (h j).2⟩

/-- A standard chassis with one line card shut down. -/
def leftDown : Memory := withRecord Memory.empty "LINE-CARD0" (plainRecord .down)

theorem untrackedIn_leftDown : UntrackedIn leftDown := by
  have hempty : UntrackedIn Memory.empty := fun _ => ⟨nofun, nofun⟩
  exact hempty.withRecord_plainRecord .down

/-- A module is cleared. -/
def clearTurn (name : String) : UseTurn :=
  ⟨.operate (.clear name), DateTime.ofUnix 0, .ok none⟩

/-- The line card is started up. -/
def upTurn : UseTurn :=
  ⟨.operate (.request ⟨"LINE-CARD0", .lineCard, by decide⟩ .up), DateTime.ofUnix 0,
    .ok (some .applied)⟩

/-- The line card is cleared, started up, and another is cleared, one that has no record. -/
def clearedAndStarted : List UseTurn := [clearTurn "LINE-CARD0", upTurn, clearTurn "LINE-CARD1"]

/-- The database after that. -/
def oneFlag : Memory :=
  withRecord
    (withRecord
      (withRecord leftDown "LINE-CARD0" (some (clearedRecord (recordIn leftDown "LINE-CARD0"))))
      "LINE-CARD0" (plainRecord .up))
    "LINE-CARD1" (some (clearedRecord none))

theorem standardRun_clearedAndStarted :
    StandardRun mayFail leftDown clearedAndStarted oneFlag :=
  .cons (Store.Client.ends_onMemory _ _ _)
    (.cons (Store.Client.ends_onMemory _ _ _) (.cons (Store.Client.ends_onMemory _ _ _) (.nil _)))

theorem tracking_of_standard_oneFlag :
    UntrackedIn leftDown ∧ StandardRun (fun _ => True) leftDown clearedAndStarted oneFlag ∧
      Carries oneFlag "LINE-CARD1" Module.inProgressField ∧
      ¬Carries oneFlag "LINE-CARD1" Module.startTimeField ∧
      inProgressOf (recordIn oneFlag "LINE-CARD1") = false := by
  have hrun : StandardRun (fun _ => True) leftDown clearedAndStarted oneFlag :=
    standardRun_clearedAndStarted
  obtain ⟨hstart, hprogress, hflag⟩ := tracking_of_standard untrackedIn_leftDown hrun "LINE-CARD1"
  have hlast : Carries oneFlag "LINE-CARD1" Module.inProgressField :=
    hflag.2 ⟨[clearTurn "LINE-CARD0", upTurn], clearTurn "LINE-CARD1", [], rfl, ⟨rfl, rfl⟩,
      fun _ h => nomatch h⟩
  exact ⟨untrackedIn_leftDown, hrun, hlast, hstart, hprogress⟩

/-- Clearing a module of a standard chassis leaves the flag in its record. -/
theorem cleared_leaves_flag :
    UntrackedIn leftDown ∧
      StandardRun (fun _ => False) leftDown [clearTurn "LINE-CARD0"]
        (withRecord leftDown "LINE-CARD0"
          (some [(Module.adminStatusField, "down"), (Module.inProgressField, "False")])) ∧
      ¬UntrackedIn (withRecord leftDown "LINE-CARD0"
          (some [(Module.adminStatusField, "down"), (Module.inProgressField, "False")])) := by
  refine ⟨untrackedIn_leftDown, .cons (Store.Client.ends_onMemory _ _ _) (.nil _), ?_⟩
  intro h
  refine (h "LINE-CARD0").1 ?_
  rw [carries_withRecord_iff, if_pos rfl]
  exact ⟨_, rfl, by decide⟩

end ChassisAdmin.Guard
