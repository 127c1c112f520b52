import ChassisAdmin.Proofs.Store.Refusal

/-!
# Programs side by side

Programs that share a database take turns, one call at a time.  A `Pool` is the
database with the programs that have joined so far, each under a label that says
what it was started for.  In one step a program joins or one program moves, and
nothing says which comes next.

What stands for a program is a parameter.  It may be the program itself, with
`called` for its moves, or a description of how far the program has got.
`Pool.Runs.map` is the simulation between the two: if every move of the one is a
move of the other, then so is every run.
-/

namespace ChassisAdmin.Store

variable {ι σ τ α : Type}

/-- A program that has joined a pool. -/
structure Process (ι σ : Type) where
  label : ι
  state : σ

/-- A database and the programs that share it. -/
structure Pool (ι σ : Type) where
  memory : Memory
  processes : List (Process ι σ)

/-- How programs join and move. -/
structure Schedule (ι σ : Type) where
  mayJoin : ι → Prop
  start : ι → σ
  move : ι → σ → Memory → σ → Memory → Prop

/-- The calls of programs, each of which may be refused where a condition allows it. -/
inductive Called (mayFail : Call → Prop) :
    Program Call Answer α → Memory → Program Call Answer α → Memory → Prop where
  | call {c : Call} {k : Answer c → Program Call Answer α} {m m' : Memory} {r : Answer c}
      (h : Reply mayFail c m r m') : Called mayFail (.ask c k) m (k r) m'

section Called

variable {mayFail : Call → Prop} {m m' : Memory} {y : Program Call Answer (Except SystemError α)}

/-- A program that reads a record first goes on with the record or stops. -/
theorem called_getEntry {table key : String} {f : Option Fields → Client α}
    (h : Called mayFail (getEntry table key >>= f).run m y m') :
    m' = m ∧ (y = (f (m.entry table key)).run ∨
      ∃ e, y = .done (.error e) ∧ mayFail (.getEntry table key)) := by
  cases h with
  | call h =>
    cases h with
    | answered => exact ⟨rfl, .inl rfl⟩
    | refused e hf => exact ⟨rfl, .inr ⟨e, rfl, hf⟩⟩

/-- A program that writes a record first goes on after the write or stops without it. -/
theorem called_setEntry {table key : String} {fields : Option Fields} {f : Unit → Client α}
    (h : Called mayFail (setEntry table key fields >>= f).run m y m') :
    (y = (f ()).run ∧ m' = m.put table key fields) ∨
      ∃ e, y = .done (.error e) ∧ m' = m ∧ mayFail (.setEntry table key fields) := by
  cases h with
  | call h =>
    cases h with
    | answered => exact .inl ⟨rfl, rfl⟩
    | refused e hf => exact .inr ⟨e, rfl, rfl, hf⟩

end Called

/-- The schedule of programs that make their calls one at a time. -/
def called (program : ι → Program Call Answer α) (mayJoin : ι → Prop) (mayFail : Call → Prop) :
    Schedule ι (Program Call Answer α) :=
  ⟨mayJoin, program, fun _ => Called mayFail⟩

namespace Pool

/-- The pool that nobody has joined yet. -/
def onlyMemory (m : Memory) : Pool ι σ := ⟨m, []⟩

/-- One step of a pool. -/
inductive Step (s : Schedule ι σ) : Pool ι σ → Pool ι σ → Prop where
  | join (i : ι) (hi : s.mayJoin i) (m : Memory) (l : List (Process ι σ)) :
      Step s ⟨m, l⟩ ⟨m, ⟨i, s.start i⟩ :: l⟩
  | move {i : ι} {x x' : σ} {m m' : Memory} (a b : List (Process ι σ)) (h : s.move i x m x' m') :
      Step s ⟨m, a ++ ⟨i, x⟩ :: b⟩ ⟨m', a ++ ⟨i, x'⟩ :: b⟩

/-- The pools that steps lead to. -/
inductive Runs (s : Schedule ι σ) (p : Pool ι σ) : Pool ι σ → Prop where
  | refl : Runs s p p
  | tail {q r : Pool ι σ} (h : Runs s p q) (hs : Step s q r) : Runs s p r

variable {s : Schedule ι σ}

/-- What every step keeps holds after every run. -/
theorem Runs.invariant {p q : Pool ι σ} (Inv : Pool ι σ → Prop)
    (hstep : ∀ {q r : Pool ι σ}, Step s q r → Inv q → Inv r) (h : Runs s p q) (hp : Inv p) :
    Inv q := by
  induction h with
  | refl => exact hp
  | tail _ hs ih => exact hstep hs ih

/-- The pool with the states of its programs replaced. -/
def map (f : ι → σ → τ) (p : Pool ι σ) : Pool ι τ :=
  ⟨p.memory, p.processes.map fun x => ⟨x.label, f x.label x.state⟩⟩

/-- Where one schedule simulates another, it has a run to match every run of the other. -/
theorem Runs.map {t : Schedule ι τ} {f : ι → σ → τ} (hj : ∀ i, t.mayJoin i → s.mayJoin i)
    (hs : ∀ i, t.start i = f i (s.start i))
    (hm : ∀ i x m y m', t.move i (f i x) m y m' → ∃ x', y = f i x' ∧ s.move i x m x' m')
    {m : Memory} {q : Pool ι τ} (h : Runs t (onlyMemory m) q) :
    ∃ p, Runs s (onlyMemory m) p ∧ q = p.map f := by
  induction h with
  | refl => exact ⟨onlyMemory m, .refl, rfl⟩
  | tail _ hstep ih =>
    obtain ⟨p, hp, rfl⟩ := ih
    obtain ⟨m₁, l⟩ := p
    generalize hq : Pool.map f ⟨m₁, l⟩ = q at hstep
    cases hstep with
    | join i hi m₂ l₂ =>
      cases hq
      exact ⟨_, .tail hp (.join i (hj i hi) _ _), by simp only [Pool.map, List.map_cons, hs]⟩
    | @move i y y' m₂ m₃ a b hy =>
      obtain ⟨rfl, hl⟩ := Pool.mk.inj hq
      obtain ⟨a, l, rfl, rfl, hb⟩ := List.map_eq_append_iff.1 hl
      obtain ⟨⟨j, x⟩, b, rfl, hx, rfl⟩ := List.map_eq_cons_iff.1 hb
      cases hx
      obtain ⟨x', rfl, hx'⟩ := hm _ _ _ _ _ hy
      exact ⟨_, .tail hp (.move a b hx'), by simp only [Pool.map, List.map_append, List.map_cons]⟩

/-- Moving one program leaves the others where they are. -/
theorem eq_or_mem_of_mem_moved {a b : List α} {x z : α} (h : z ∈ a ++ x :: b) (y : α) :
    z = x ∨ z ∈ a ++ y :: b := by
  rcases List.mem_append.1 h with ha | hb
  · exact .inr (List.mem_append_left _ ha)
  · rcases List.mem_cons.1 hb with rfl | hb
    · exact .inl rfl
    · exact .inr (List.mem_append_right _ (List.mem_cons_of_mem y hb))

end Pool

end ChassisAdmin.Store
