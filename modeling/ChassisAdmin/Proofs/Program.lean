import ChassisAdmin.Program

/-!
# Requests and runs of programs

`Program.Asks` says that a program makes no requests but those of one kind,
whatever the answers are, and `Program.Yields` that it ends with no values but
those of one kind.  Both are closed under sequencing, so they are shown of a
program by looking at its parts.  `Attempt.Raises` is the second for errors.

A program runs on a part of a state as it runs on that part alone
(`Program.run_part`), and a sequence of attempts runs its second part where the
first ended, or stops with the first (`Attempt.runWith_bind_ok` and
`Attempt.runWith_bind_error`).
-/

namespace ChassisAdmin

variable {Op Op' : Type} {Ans : Op → Type} {Ans' : Op' → Type} {ε ε' α β σ τ : Type}

namespace Program

/-! ## Requests -/

/-- Every request of a program is of a kind, whatever is answered. -/
def Asks (P : Op → Prop) : Program Op Ans α → Prop
  | done _ => True
  | ask op k => P op ∧ ∀ r, (k r).Asks P

variable {P : Op → Prop}

theorem asks_bind {p : Program Op Ans α} {f : α → Program Op Ans β} (hp : p.Asks P)
    (hf : ∀ a, (f a).Asks P) : (p.bind f).Asks P := by
  induction p with
  | done a => exact hf a
  | ask op k ih => exact ⟨hp.1, fun r => ih r (hp.2 r)⟩

theorem asks_of_forall (h : ∀ op, P op) (p : Program Op Ans α) : p.Asks P := by
  induction p with
  | done a => trivial
  | ask op k ih => exact ⟨h op, ih⟩

theorem asks_interpret {Q : Op' → Prop} {p : Program Op' Ans' α} (hp : p.Asks Q)
    {tr : (op : Op') → Program Op Ans (Ans' op)} (h : ∀ op, Q op → (tr op).Asks P) :
    (p.interpret tr).Asks P := by
  induction p with
  | done a => trivial
  | ask op k ih => exact asks_bind (h op hp.1) fun r => ih r (hp.2 r)

/-! ## Values -/

/-- A program ends with a value of a kind, whatever is answered. -/
def Yields (P : α → Prop) : Program Op Ans α → Prop
  | done a => P a
  | ask _ k => ∀ r, (k r).Yields P

theorem yields_of_forall {P : α → Prop} (h : ∀ a, P a) (p : Program Op Ans α) : p.Yields P := by
  induction p with
  | done a => exact h a
  | ask op k ih => exact ih

theorem yields_bind {P : α → Prop} {Q : β → Prop} {p : Program Op Ans α}
    {f : α → Program Op Ans β} (hp : p.Yields P) (hf : ∀ a, P a → (f a).Yields Q) :
    (p.bind f).Yields Q := by
  induction p with
  | done a => exact hf a hp
  | ask op k ih => exact fun r => ih r (hp r)

theorem yields_interpret {P : α → Prop} {p : Program Op' Ans' α} (hp : p.Yields P)
    (tr : (op : Op') → Program Op Ans (Ans' op)) : (p.interpret tr).Yields P := by
  induction p with
  | done a => exact hp
  | ask op k ih =>
    exact yields_bind (yields_of_forall (P := fun _ => True) (fun _ => trivial) (tr op))
      fun r _ => ih r (hp r)

/-! ## Runs on a part of a state -/

/-- A program whose requests are all answered by a part of a state runs as on that part alone. -/
theorem run_part (get : σ → τ) (put : σ → τ → σ) (hput : ∀ s, put s (get s) = s)
    (hget : ∀ s t, get (put s t) = t) (hputput : ∀ s t t', put (put s t) t' = put s t')
    (handle : (op : Op) → τ → Ans op × τ) (p : Program Op Ans α) (s : σ) :
    p.run (fun op s => ((handle op (get s)).1, put s (handle op (get s)).2)) s =
      ((p.run handle (get s)).1, put s (p.run handle (get s)).2) := by
  induction p generalizing s with
  | done a => rw [run, run, hput]
  | ask op k ih => rw [run, ih, hget, hputput, run]

end Program

namespace Attempt

/-- Every request of an attempt is of a kind. -/
abbrev Asks (P : Op → Prop) (p : Attempt Op Ans ε α) : Prop := Program.Asks P p.run

variable {P : Op → Prop}

theorem asks_pure (a : α) : (pure a : Attempt Op Ans ε α).Asks P := trivial

theorem asks_throw (e : ε) : (throw e : Attempt Op Ans ε α).Asks P := trivial

theorem asks_bind {p : Attempt Op Ans ε α} {f : α → Attempt Op Ans ε β} (hp : p.Asks P)
    (hf : ∀ a, (f a).Asks P) : (p >>= f).Asks P := by
  refine Program.asks_bind hp ?_
  intro r
  cases r with
  | error e => trivial
  | ok a => exact hf a

theorem asks_request {op : Op} (h : P op) (answer : Ans op → Except ε α) :
    (request op answer : Attempt Op Ans ε α).Asks P := ⟨h, fun _ => trivial⟩

theorem asks_mapError {p : Attempt Op Ans ε α} (f : ε → ε') (h : p.Asks P) :
    (p.mapError f).Asks P := Program.asks_bind h fun _ => trivial

/-! ## Errors -/

/-- Every error that an attempt stops with is of a kind. -/
abbrev Raises (E : ε → Prop) (p : Attempt Op Ans ε α) : Prop :=
  Program.Yields (fun r => ∀ e, r = .error e → E e) p.run

section Raises

variable {E : ε → Prop} {E' : ε' → Prop}

theorem raises_pure (a : α) : (pure a : Attempt Op Ans ε α).Raises E := fun _ h => nomatch h

theorem raises_throw {e : ε} (h : E e) : (throw e : Attempt Op Ans ε α).Raises E := by
  rintro e' he
  cases he
  exact h

theorem raises_request {op : Op} {answer : Ans op → Except ε α}
    (h : ∀ r e, answer r = .error e → E e) : (request op answer : Attempt Op Ans ε α).Raises E := h

theorem raises_bind {p : Attempt Op Ans ε α} {f : α → Attempt Op Ans ε β} (hp : p.Raises E)
    (hf : ∀ a, (f a).Raises E) : (p >>= f).Raises E := by
  refine Program.yields_bind hp ?_
  intro r hr
  cases r with
  | error e =>
    intro e' he
    cases he
    exact hr e rfl
  | ok a => exact hf a

theorem raises_mapError {p : Attempt Op Ans ε α} {f : ε → ε'} (hp : p.Raises E)
    (h : ∀ e, E e → E' (f e)) : (p.mapError f).Raises E' := by
  refine Program.yields_bind hp ?_
  intro r hr e' he
  cases r with
  | error e =>
    cases he
    exact h e (hr e rfl)
  | ok a => cases he

/-- Where all errors become one of a kind, nothing need be known of them. -/
theorem raises_mapError_of_forall {f : ε → ε'} (h : ∀ e, E' (f e)) (p : Attempt Op Ans ε α) :
    (p.mapError f).Raises E' :=
  raises_mapError (E := fun _ => True)
    (Program.yields_of_forall (fun _ _ _ => trivial) p.run) fun e _ => h e

end Raises

/-! ## Runs of sequences -/

variable {handle : (op : Op) → σ → Ans op × σ} {s s' : σ} {p : Attempt Op Ans ε α}

theorem runWith_bind_ok {a : α} (h : p.runWith handle s = (.ok a, s'))
    (f : α → Attempt Op Ans ε β) : (p >>= f).runWith handle s = (f a).runWith handle s' := by
  refine (Program.run_bind handle p.run _ s).trans ?_
  rw [show Program.run handle p.run s = (.ok a, s') from h]
  rfl

theorem runWith_bind_error {e : ε} (h : p.runWith handle s = (.error e, s'))
    (f : α → Attempt Op Ans ε β) : (p >>= f).runWith handle s = (.error e, s') := by
  refine (Program.run_bind handle p.run _ s).trans ?_
  rw [show Program.run handle p.run s = (.error e, s') from h]
  rfl

theorem runWith_mapError_ok {a : α} (h : p.runWith handle s = (.ok a, s')) (f : ε → ε') :
    (p.mapError f).runWith handle s = (.ok a, s') := by
  refine (Program.run_bind handle p.run _ s).trans ?_
  rw [show Program.run handle p.run s = (.ok a, s') from h]
  rfl

/-- An attempt that is interpreted by requests of a part of a state runs as on that part alone. -/
theorem runWith_interpret_part {handle' : (op : Op') → τ → Ans' op × τ}
    {tr : (op : Op') → Program Op Ans (Ans' op)} {q : Attempt Op' Ans' ε α} {a : α} {t : τ}
    (get : σ → τ) (put : σ → τ → σ) (hput : ∀ s, put s (get s) = s)
    (hget : ∀ s t, get (put s t) = t) (hputput : ∀ s t t', put (put s t) t' = put s t')
    (htr : ∀ op s, (tr op).run handle s = ((handle' op (get s)).1, put s (handle' op (get s)).2))
    (h : q.runWith handle' (get s) = (.ok a, t)) :
    (q.interpret tr).runWith handle s = (.ok a, put s t) := by
  refine (Program.run_interpret handle tr q.run s).trans ?_
  simp only [htr]
  refine (Program.run_part get put hput hget hputput handle' q.run s).trans ?_
  rw [show Program.run handle' q.run (get s) = (.ok a, t) from h]

end Attempt

end ChassisAdmin
