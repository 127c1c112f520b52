import ChassisAdmin.Store.Memory

/-!
# Databases that refuse calls

A database in memory answers every call.  A real one may refuse a call instead,
and a refused call has no effect.  `Reply` lists both ways for one call, and
`Ends` the ends a program can come to when each of its calls goes one of the two
ways.  Which calls can be refused at all is a parameter.  With none of them the
relation is the graph of `Client.onMemory` (`ends_onMemory_iff`), and with all
of them it covers every pattern of failures.

Programs are taken apart with `ends_bind_iff`, `ends_getEntry_iff` and
`ends_setEntry_iff`.  Records are seen through `Memory.entry`, which is what
reading them answers, and `entry_put` says what a write does to that view.
-/

namespace ChassisAdmin.Store

variable {α β : Type} {mayFail : Call → Prop}

/-! ## Records as they are read -/

namespace Memory

/-- A record as reading it answers: one without fields counts as absent. -/
def entry (m : Memory) (table key : String) : Option Fields := (m.record table key).bind nonempty

/-- The database after a record is replaced or deleted. -/
def put (m : Memory) (table key : String) (fields : Option Fields) : Memory :=
  (answer (.setEntry table key fields) m).2

theorem nonempty_of_ne_nil {l : Fields} (h : l ≠ []) : nonempty l = some l := by
  cases l with
  | nil => exact absurd rfl h
  | cons e l => rfl

theorem bind_nonempty_bind (o : Option Fields) :
    (o.bind nonempty).bind nonempty = o.bind nonempty := by
  cases o with
  | none => rfl
  | some l => cases l <;> rfl

theorem get?_write (r : Keyed Fields) (k : String) (fields : Option Fields) (j : String) :
    (write r k fields).get? j = if k = j then fields.bind nonempty else r.get? j := by
  unfold write
  split
  · next l hl => rw [Keyed.get?_insert, hl]
  · next hl => rw [Keyed.get?_erase, hl]

theorem get?_put (m : Memory) (table key : String) (fields : Option Fields) (k : String) :
    (m.put table key fields).records.get? k =
      if rawKey table key = k then fields.bind nonempty else m.records.get? k :=
  get?_write m.records (rawKey table key) fields k

theorem record_put (m : Memory) (table key : String) (fields : Option Fields) (j : String) :
    (m.put table key fields).record table j =
      if key = j then fields.bind nonempty else m.record table j := by
  have h : rawKey table key = rawKey table j ↔ key = j :=
    ⟨fun h => rawKey_injective table h, fun h => h ▸ rfl⟩
  rw [record, get?_put]
  simp only [h]
  rfl

theorem record_put_of_ne (m : Memory) (table : String) {key j : String} (fields : Option Fields)
    (h : key ≠ j) : (m.put table key fields).record table j = m.record table j := by
  rw [record_put, if_neg h]

/-- A write shows in the record it is for and in no other. -/
theorem entry_put (m : Memory) (table key : String) (fields : Option Fields) (j : String) :
    (m.put table key fields).entry table j =
      if key = j then fields.bind nonempty else m.entry table j := by
  rw [entry, record_put]
  split
  · exact bind_nonempty_bind fields
  · rfl

theorem entry_put_self (m : Memory) (table key : String) (fields : Option Fields) :
    (m.put table key fields).entry table key = fields.bind nonempty := by
  rw [entry_put, if_pos rfl]

theorem entry_put_of_ne (m : Memory) (table : String) {key j : String} (fields : Option Fields)
    (h : key ≠ j) : (m.put table key fields).entry table j = m.entry table j := by
  rw [entry_put, if_neg h]

end Memory

/-! ## Ends of programs -/

/-- The replies of a database to a call, each with the database after it. -/
inductive Reply (mayFail : Call → Prop) : (c : Call) → Memory → Answer c → Memory → Prop where
  | answered (c : Call) (m : Memory) : Reply mayFail c m (Memory.answer c m).1 (Memory.answer c m).2
  | refused (c : Call) (m : Memory) (e : SystemError) (h : mayFail c) :
      Reply mayFail c m (.error e) m

/-- The values a program can end with on a database, each with the database after it. -/
inductive Ends (mayFail : Call → Prop) : Program Call Answer α → Memory → α → Memory → Prop where
  | done (a : α) (m : Memory) : Ends mayFail (.done a) m a m
  | ask {c : Call} {k : Answer c → Program Call Answer α} {m m₁ m₂ : Memory} {r : Answer c} {a : α}
      (hr : Reply mayFail c m r m₁) (hk : Ends mayFail (k r) m₁ a m₂) :
      Ends mayFail (.ask c k) m a m₂

theorem ends_done_iff {a b : α} {m m' : Memory} :
    Ends mayFail (.done a) m b m' ↔ b = a ∧ m' = m := by
  constructor
  · intro h
    cases h
    exact ⟨rfl, rfl⟩
  · rintro ⟨rfl, rfl⟩
    exact .done _ _

theorem ends_program_bind_iff {p : Program Call Answer α} {f : α → Program Call Answer β}
    {m m' : Memory} {b : β} :
    Ends mayFail (p.bind f) m b m' ↔
      ∃ a m₁, Ends mayFail p m a m₁ ∧ Ends mayFail (f a) m₁ b m' := by
  constructor
  · intro h
    induction p generalizing m with
    | done a => exact ⟨a, m, .done a m, h⟩
    | ask c k ih =>
      cases h with
      | ask hr hk =>
        obtain ⟨a, m₁, hp, hf⟩ := ih _ hk
        exact ⟨a, m₁, .ask hr hp, hf⟩
  · rintro ⟨a, m₁, hp, hf⟩
    induction hp with
    | done a m => exact hf
    | ask hr _ ih => exact .ask hr (ih hf)

/-- The ends of a program that may stop early with an error. -/
abbrev Client.Ends (mayFail : Call → Prop) (p : Client α) (m : Memory) (r : Except SystemError α)
    (m' : Memory) : Prop :=
  Store.Ends mayFail p.run m r m'

namespace Client

theorem ends_pure_iff {a : α} {m m' : Memory} {r : Except SystemError α} :
    Client.Ends mayFail (pure a) m r m' ↔ r = .ok a ∧ m' = m :=
  ends_done_iff

/-- A sequence ends where its first part fails, or where its second part ends. -/
theorem ends_bind_iff {p : Client α} {f : α → Client β} {m m' : Memory} {r : Except SystemError β} :
    Client.Ends mayFail (p >>= f) m r m' ↔
      (∃ e, Client.Ends mayFail p m (.error e) m' ∧ r = .error e) ∨
        ∃ a m₁, Client.Ends mayFail p m (.ok a) m₁ ∧ Client.Ends mayFail (f a) m₁ r m' := by
  refine ends_program_bind_iff.trans ⟨?_, ?_⟩
  · rintro ⟨x, m₁, hp, hf⟩
    cases x with
    | error e =>
      obtain ⟨rfl, rfl⟩ := ends_done_iff.1 hf
      exact .inl ⟨e, hp, rfl⟩
    | ok a => exact .inr ⟨a, m₁, hp, hf⟩
  · rintro (⟨e, hp, rfl⟩ | ⟨a, m₁, hp, hf⟩)
    · exact ⟨.error e, m', hp, .done _ _⟩
    · exact ⟨.ok a, m₁, hp, hf⟩

theorem ends_getEntry_iff {table key : String} {m m' : Memory}
    {r : Except SystemError (Option Fields)} :
    Client.Ends mayFail (getEntry table key) m r m' ↔
      m' = m ∧ (r = .ok (m.entry table key) ∨ ∃ e, r = .error e ∧ mayFail (.getEntry table key)) := by
  constructor
  · intro h
    cases h with
    | ask hr hk =>
      cases hr with
      | answered =>
        obtain ⟨rfl, rfl⟩ := ends_done_iff.1 hk
        exact ⟨rfl, .inl rfl⟩
      | refused e hf =>
        obtain ⟨rfl, rfl⟩ := ends_done_iff.1 hk
        exact ⟨rfl, .inr ⟨e, rfl, hf⟩⟩
  · rintro ⟨rfl, rfl | ⟨e, rfl, hf⟩⟩
    · exact .ask (.answered _ _) (.done _ _)
    · exact .ask (.refused _ _ e hf) (.done _ _)

theorem ends_setEntry_iff {table key : String} {fields : Option Fields} {m m' : Memory}
    {r : Except SystemError Unit} :
    Client.Ends mayFail (setEntry table key fields) m r m' ↔
      (r = .ok () ∧ m' = m.put table key fields) ∨
        ∃ e, r = .error e ∧ m' = m ∧ mayFail (.setEntry table key fields) := by
  constructor
  · intro h
    cases h with
    | ask hr hk =>
      cases hr with
      | answered =>
        obtain ⟨rfl, rfl⟩ := ends_done_iff.1 hk
        exact .inl ⟨rfl, rfl⟩
      | refused e hf =>
        obtain ⟨rfl, rfl⟩ := ends_done_iff.1 hk
        exact .inr ⟨e, rfl, rfl, hf⟩
  · rintro (⟨rfl, rfl⟩ | ⟨e, rfl, rfl, hf⟩)
    · exact .ask (.answered _ _) (.done _ _)
    · exact .ask (.refused _ _ e hf) (.done _ _)

end Client

/-! ## Databases that refuse nothing -/

theorem ends_run (p : Program Call Answer α) (m : Memory) :
    Ends mayFail p m (p.run Memory.answer m).1 (p.run Memory.answer m).2 := by
  induction p generalizing m with
  | done a => exact .done a m
  | ask c k ih => exact .ask (.answered c m) (ih _ _)

/-- Where no call can be refused, a program ends as it does on the database in memory. -/
theorem ends_run_iff (hf : ∀ c, ¬mayFail c) {p : Program Call Answer α} {m m' : Memory} {a : α} :
    Ends mayFail p m a m' ↔ p.run Memory.answer m = (a, m') := by
  constructor
  · intro h
    induction h with
    | done a m => rfl
    | ask hr _ ih =>
      cases hr with
      | answered => exact ih
      | refused e h => exact absurd h (hf _)
  · intro h
    have he : Ends mayFail p m (p.run Memory.answer m).1 (p.run Memory.answer m).2 := ends_run p m
    rwa [h] at he

/-- A database that could refuse calls may also answer them all. -/
theorem Client.ends_onMemory (mayFail : Call → Prop) (p : Client α) (m : Memory) :
    Client.Ends mayFail p m (p.onMemory m).1 (p.onMemory m).2 :=
  ends_run p.run m

theorem Client.ends_onMemory_iff (hf : ∀ c, ¬mayFail c) {p : Client α} {m m' : Memory}
    {r : Except SystemError α} : Client.Ends mayFail p m r m' ↔ p.onMemory m = (r, m') :=
  ends_run_iff hf

end ChassisAdmin.Store
