import ChassisAdmin.Fields
import ChassisAdmin.Program
import ChassisAdmin.SystemError

/-!
# Calls on a database

A database holds records of fields under raw keys.  A raw key is the name of a
table, a bar and the key of a record in it.  Since keys may hold bars too, a raw
key may be read as several pairs of table and key.  It is the raw key that
counts.

There are five calls and no others: no transaction spans two records, and no
write depends on what is in the store.  A reading followed by a writing can
therefore be cut apart by another program.  A `Store.Client` is a program over
these calls, so each of its calls is one indivisible step.
-/

namespace ChassisAdmin.Store

/-- The character between a table and a key. -/
def separator : String := "|"

/-- The raw key of a record. -/
def rawKey (table key : String) : String := table ++ separator ++ key

theorem rawKey_injective (table : String) {k l : String} (h : rawKey table k = rawKey table l) :
    k = l := by
  have := congrArg String.toList h
  exact String.toList_inj.1 (by simpa [rawKey, String.toList_append] using this)

/-- A call on a database. -/
inductive Call where
  /-- Reads a record.  A record without fields counts as absent. -/
  | getEntry (table key : String)
  /-- Replaces a record.  Without fields it is deleted. -/
  | setEntry (table key : String) (fields : Option Fields)
  /-- Lists the raw keys that match a pattern. -/
  | keys (pattern : String)
  /-- Reads one field under a raw key. -/
  | hget (rawKey field : String)
  /-- Deletes what stands under a raw key. -/
  | delete (rawKey : String)
  deriving DecidableEq, Repr

/-- What a call that succeeds answers with. -/
abbrev Call.Value : Call → Type
  | getEntry .. => Option Fields
  | setEntry .. => Unit
  | keys _ => List String
  | hget .. => Option String
  | delete _ => Unit

/-- The answer to a call. -/
abbrev Answer (c : Call) : Type := Except SystemError c.Value

/-- A program over one database. -/
abbrev Client (α : Type) : Type := Attempt Call Answer SystemError α

/-- Reads a record. -/
def getEntry (table key : String) : Client (Option Fields) :=
  Attempt.request (.getEntry table key) id

/-- Replaces or deletes a record. -/
def setEntry (table key : String) (fields : Option Fields) : Client Unit :=
  Attempt.request (.setEntry table key fields) id

/-- Lists the raw keys that match a pattern. -/
def keys (pattern : String) : Client (List String) := Attempt.request (.keys pattern) id

/-- Reads one field under a raw key. -/
def hget (rawKey field : String) : Client (Option String) :=
  Attempt.request (.hget rawKey field) id

/-- Deletes what stands under a raw key. -/
def delete (rawKey : String) : Client Unit := Attempt.request (.delete rawKey) id

end ChassisAdmin.Store
