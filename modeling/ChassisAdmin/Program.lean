/-!
# Programs that ask their surroundings

Everything this library does to a database, a service, a remote shell or a file
is written as a `Program`: a tree whose inner nodes are requests and whose
branches are the possible answers.  A program says nothing about who answers.
The same tree can be answered by records in memory, by a scripted fault, by a
server, or step by step between the steps of other programs.

`Program.run` answers every request with a handler over a state.
`Program.interpret` replaces every request by a program over other requests,
which is how a part that knows one database is used inside a part that knows
three.  `run_bind` and `run_interpret` say that both respect sequencing.
-/

namespace ChassisAdmin

/-- A program over requests of type `Op`, where `Ans op` is the type of the answers to `op`. -/
inductive Program (Op : Type) (Ans : Op → Type) (α : Type) : Type where
  /-- Finished with a value. -/
  | done (value : α)
  /-- Asks one request and goes on with its answer. -/
  | ask (op : Op) (resume : Ans op → Program Op Ans α)

namespace Program

variable {Op Op' : Type} {Ans : Op → Type} {Ans' : Op' → Type} {α β γ σ : Type}

/-- Runs one program and then another that depends on its value. -/
def bind : Program Op Ans α → (α → Program Op Ans β) → Program Op Ans β
  | done a, f => f a
  | ask op k, f => ask op fun r => (k r).bind f

instance : Monad (Program Op Ans) where
  pure := done
  bind := bind

/-- The program of a single request. -/
def request (op : Op) : Program Op Ans (Ans op) := ask op done

/-- Answers every request of a program with a handler over a state. -/
def run (handle : (op : Op) → σ → Ans op × σ) : Program Op Ans α → σ → α × σ
  | done a, s => (a, s)
  | ask op k, s => (k (handle op s).1).run handle (handle op s).2

/-- Replaces every request by a program over other requests. -/
def interpret (tr : (op : Op) → Program Op' Ans' (Ans op)) :
    Program Op Ans α → Program Op' Ans' α
  | done a => done a
  | ask op k => (tr op).bind fun r => (k r).interpret tr

theorem bind_done (p : Program Op Ans α) : p.bind done = p := by
  induction p with
  | done a => rfl
  | ask op k ih => simp only [bind, ih]

theorem bind_assoc (p : Program Op Ans α) (f : α → Program Op Ans β) (g : β → Program Op Ans γ) :
    (p.bind f).bind g = p.bind fun a => (f a).bind g := by
  induction p with
  | done a => rfl
  | ask op k ih => simp only [bind, ih]

instance : LawfulMonad (Program Op Ans) := LawfulMonad.mk'
  (m := Program Op Ans)
  (fun p => bind_done p)
  (fun _ _ => rfl)
  (fun p f g => bind_assoc p f g)

/-- Running a sequence runs its parts in turn, on the state the first part left. -/
theorem run_bind (handle : (op : Op) → σ → Ans op × σ) (p : Program Op Ans α)
    (f : α → Program Op Ans β) (s : σ) :
    (p.bind f).run handle s = (f (p.run handle s).1).run handle (p.run handle s).2 := by
  induction p generalizing s with
  | done a => rfl
  | ask op k ih => simp only [bind, run, ih]

/-- Running an interpreted program is running the program, each request answered by its
interpretation. -/
theorem run_interpret (handle : (op : Op') → σ → Ans' op × σ)
    (tr : (op : Op) → Program Op' Ans' (Ans op)) (p : Program Op Ans α) (s : σ) :
    (p.interpret tr).run handle s = p.run (fun op t => (tr op).run handle t) s := by
  induction p generalizing s with
  | done a => rfl
  | ask op k ih => simp only [interpret, run, run_bind, ih]

end Program

/-- A program that may stop early with an error. -/
abbrev Attempt (Op : Type) (Ans : Op → Type) (ε α : Type) : Type := ExceptT ε (Program Op Ans) α

namespace Attempt

variable {Op Op' : Type} {Ans : Op → Type} {Ans' : Op' → Type} {ε ε' α β σ : Type}

/-- A request whose answer may itself be an error. -/
def request (op : Op) (answer : Ans op → Except ε α) : Attempt Op Ans ε α :=
  ExceptT.mk (Program.ask op fun r => .done (answer r))

/-- Replaces every request by a program over other requests. -/
def interpret (tr : (op : Op) → Program Op' Ans' (Ans op)) (p : Attempt Op Ans ε α) :
    Attempt Op' Ans' ε α :=
  ExceptT.mk (Program.interpret tr p.run)

/-- Changes the error a program stops with. -/
def mapError (f : ε → ε') (p : Attempt Op Ans ε α) : Attempt Op Ans ε' α :=
  ExceptT.mk (Program.bind p.run fun r => .done (r.mapError f))

/-- The outcome of a program as a value: it never stops early. -/
def outcome (p : Attempt Op Ans ε α) : Attempt Op Ans ε' (Except ε α) :=
  ExceptT.mk (Program.bind p.run fun r => .done (.ok r))

/-- Answers every request of a program with a handler over a state. -/
def runWith (handle : (op : Op) → σ → Ans op × σ) (p : Attempt Op Ans ε α) (s : σ) :
    Except ε α × σ :=
  Program.run handle p.run s

end Attempt

end ChassisAdmin
