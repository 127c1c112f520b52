import ChassisAdmin.Keyed
import ChassisAdmin.Store.Call
import ChassisAdmin.Text.Glob

/-!
# A database in memory

Records under their raw keys in ascending order, with a log of the raw keys that
calls have written or deleted.  `insert` and `record` look past the calls.  They
put a record in without logging it, also one without fields, and read it back as
it is.  `answer` answers every call and never fails.
-/

namespace ChassisAdmin.Store

/-- A database in memory. -/
structure Memory where
  /-- The records by raw key. -/
  records : Keyed Fields
  /-- The raw keys written or deleted so far, in order. -/
  writes : List String

namespace Memory

/-- The database without records. -/
def empty : Memory := ⟨.empty, []⟩

instance : Inhabited Memory := ⟨empty⟩

/-- Puts a record in without logging it. -/
def insert (m : Memory) (table key : String) (fields : Fields) : Memory :=
  { m with records := m.records.insert (rawKey table key) fields }

/-- Puts several records in, one after the other. -/
def seed (m : Memory) (records : List (String × String × Fields)) : Memory :=
  records.foldl (fun m r => m.insert r.1 r.2.1 r.2.2) m

/-- The record under a table and a key, also one without fields. -/
def record (m : Memory) (table key : String) : Option Fields := m.records.get? (rawKey table key)

/-- Adds a raw key to the log. -/
def logged (m : Memory) (rawKey : String) : Memory := { m with writes := m.writes ++ [rawKey] }

/-- The fields of a record that has any. -/
def nonempty (fields : Fields) : Option Fields := if fields.isEmpty then none else some fields

/-- The raw keys that match a pattern, ascending. -/
def matching (m : Memory) (pattern : String) : List String :=
  m.records.keys.filter (Text.Glob.isMatch pattern)

/-- The records after a write. -/
def write (r : Keyed Fields) (rawKey : String) (fields : Option Fields) : Keyed Fields :=
  match fields.bind nonempty with
  | some fields => r.insert rawKey fields
  | none => r.erase rawKey

/-- Answers a call. -/
def answer : (c : Call) → Memory → Answer c × Memory
  | .getEntry table key, m => (.ok ((m.record table key).bind nonempty), m)
  | .setEntry table key fields, m =>
      let raw := rawKey table key
      (.ok (), { m.logged raw with records := write m.records raw fields })
  | .keys pattern, m => (.ok (m.matching pattern), m)
  | .hget rawKey field, m => (.ok ((m.records.get? rawKey).bind (·.get? field)), m)
  | .delete rawKey, m => (.ok (), { m.logged rawKey with records := m.records.erase rawKey })

end Memory

/-- Runs a program on a database in memory. -/
def Client.onMemory {α : Type} (p : Client α) (m : Memory) : Except SystemError α × Memory :=
  Attempt.runWith Memory.answer p m

end ChassisAdmin.Store
