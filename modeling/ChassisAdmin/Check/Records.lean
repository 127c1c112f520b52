import ChassisAdmin.Check.Mismatch
import ChassisAdmin.Store.Call

/-!
# Checks on the records of a database

Each check is a program over a database that stops at the first mismatch.  A
record without fields counts as absent.
-/

namespace ChassisAdmin.Check

open Store (rawKey)

/-- A check on a database. -/
abbrev Records (α : Type) : Type := Attempt Store.Call Store.Answer Mismatch α

namespace Records

/-- Runs a program on the database of a check. -/
def reading {α : Type} (p : Store.Client α) : Records α := p.mapError .store

/-- A record has to be there. -/
def present (table key : String) : Records Fields := do
  match ← reading (Store.getEntry table key) with
  | some fields => return fields
  | none => throw (.recordMissing (rawKey table key))

/-- A record must not be there. -/
def absent (table key : String) : Records Unit := do
  match ← reading (Store.getEntry table key) with
  | some fields => throw (.recordUnexpected (rawKey table key) fields)
  | none => return ()

/-- A field has to have a value. -/
def hasValue (table key field expected : String) : Records Unit := do
  let fields ← present table key
  match fields.get? field with
  | none => throw (.fieldMissing (rawKey table key) field)
  | some actual =>
      if actual = expected then return ()
      else throw (.otherValue (rawKey table key) field expected actual)

/-- A record must not have a field. -/
def lacks (table key field : String) : Records Unit := do
  let fields ← present table key
  match fields.get? field with
  | some value => throw (.fieldUnexpected (rawKey table key) field value)
  | none => return ()

/-- Fields have to have values. -/
def hasValues (table key : String) : Fields → Records Unit
  | [] => return ()
  | (field, expected) :: rest => do
      hasValue table key field expected
      hasValues table key rest

/-- So many raw keys have to match a pattern. -/
def matchingCount (pattern : String) (expected : Nat) : Records Unit := do
  let keys ← reading (Store.keys pattern)
  if keys.length = expected then return ()
  else throw (.keyCount pattern expected keys.length)

end Records

end ChassisAdmin.Check
