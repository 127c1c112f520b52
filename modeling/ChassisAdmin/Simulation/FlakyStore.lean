import ChassisAdmin.Store.Memory

/-!
# A database that fails on demand

A database in memory that can be told to fail.  Each of the five methods may be
given an allowance: so many calls of it still succeed, and from then on each is
refused without touching the records, until the allowances are lifted.
-/

namespace ChassisAdmin.Simulation

/-- The methods of a database, without their arguments. -/
inductive Method where
  /-- Reading a record. -/
  | getEntry
  /-- Replacing a record. -/
  | setEntry
  /-- Listing raw keys. -/
  | keys
  /-- Reading a field. -/
  | hget
  /-- Deleting a raw key. -/
  | delete
  deriving DecidableEq, Repr

namespace Method

/-- The name of a method. -/
def name : Method → String
  | getEntry => "get_entry"
  | setEntry => "set_entry"
  | keys => "keys"
  | hget => "hget"
  | delete => "delete"

/-- The method with a name. -/
def ofName? (s : String) : Option Method :=
  [getEntry, setEntry, keys, hget, delete].find? (·.name == s)

/-- The method of a call. -/
def ofCall : Store.Call → Method
  | .getEntry .. => getEntry
  | .setEntry .. => setEntry
  | .keys _ => keys
  | .hget .. => hget
  | .delete _ => delete

end Method

/-- A database in memory that fails on demand. -/
structure FlakyStore where
  /-- The database. -/
  memory : Store.Memory
  /-- The methods with an allowance, and how many calls of each still succeed. -/
  allowances : List (Method × Nat)

namespace FlakyStore

/-- A database that does not fail. -/
def healthy (memory : Store.Memory) : FlakyStore := ⟨memory, []⟩

/-- Gives a method an allowance. -/
def allow (s : FlakyStore) (method : Method) (calls : Nat) : FlakyStore :=
  { s with allowances := (method, calls) :: s.allowances.filter (·.1 ≠ method) }

/-- Lifts all allowances. -/
def heal (s : FlakyStore) : FlakyStore := { s with allowances := [] }

/-- Changes the records past the calls. -/
def modify (s : FlakyStore) (f : Store.Memory → Store.Memory) : FlakyStore :=
  { s with memory := f s.memory }

/-- The error of a refused call. -/
def refusal (method : Method) : SystemError := .database method.name "injected"

/-- Answers a call. -/
def answer (c : Store.Call) (s : FlakyStore) : Store.Answer c × FlakyStore :=
  let method := Method.ofCall c
  let pass (s : FlakyStore) : Store.Answer c × FlakyStore :=
    let r := Store.Memory.answer c s.memory
    (r.1, { s with memory := r.2 })
  match s.allowances.find? (·.1 = method) with
  | none => pass s
  | some (_, 0) => (.error (refusal method), s)
  | some (_, n + 1) => pass (s.allow method n)

/-- Runs a program on the database. -/
def runClient {α : Type} (p : Store.Client α) (s : FlakyStore) :
    Except SystemError α × FlakyStore :=
  Attempt.runWith answer p s

end FlakyStore

end ChassisAdmin.Simulation
