import ChassisAdmin.Store.Database
import ChassisAdmin.Store.Call
import ChassisAdmin.Keyed

/-!
# A database behind a server

Each call on a database is one command to a server.  The server keeps a hash
under each raw key, a map from field names to values, so the order of fields is
lost on the way: a record is read back with its fields in ascending order.
Replacing a record is one transaction that deletes the hash and sets its fields
anew.  Of fields with one name the last stays.

A server answers a command with a value or with a text that says what went
wrong.  The text becomes a database error that names the operation.
-/

namespace ChassisAdmin.Store.Redis

/-- The fields of a hash. -/
abbrev Hash := Keyed String

/-- A command to the server of a database. -/
inductive Command where
  /-- Reads all fields of a hash. -/
  | hgetall (key : String)
  /-- Deletes a hash and sets its fields anew, in one transaction. -/
  | replace (key : String) (fields : Fields)
  /-- Lists the keys that match a pattern, in any order. -/
  | keys (pattern : String)
  /-- Reads one field of a hash. -/
  | hget (key field : String)
  /-- Deletes a hash. -/
  | del (key : String)
  deriving DecidableEq, Repr

/-- What a command that succeeds answers with. -/
abbrev Command.Value : Command → Type
  | hgetall _ => Hash
  | replace .. => Unit
  | keys _ => List String
  | hget .. => Option String
  | del _ => Unit

/-- The reply to a command. -/
abbrev Reply (c : Command) : Type := Except String c.Value

/-- The database error that a refused command stands for. -/
def failed {α : Type} (operation : String) (r : Except String α) : Except SystemError α :=
  r.mapError (SystemError.database operation)

/-- The fields of a hash that has any, in ascending order. -/
def fieldsOf (h : Hash) : Option Fields := if h.toList.isEmpty then none else some h.toList

/-- Answers a call on a database by one command to its server. -/
def client : (c : Call) → Program Command Reply (Answer c)
  | .getEntry table key =>
      .ask (.hgetall (rawKey table key)) fun r => .done ((failed "hgetall" r).map fieldsOf)
  | .setEntry table key fields =>
      .ask (.replace (rawKey table key) (fields.getD [])) fun r => .done (failed "set_entry" r)
  | .keys pattern =>
      .ask (.keys pattern) fun r =>
        .done ((failed "keys" r).map fun l => l.mergeSort fun a b => decide (a ≤ b))
  | .hget key field => .ask (.hget key field) fun r => .done (failed "hget" r)
  | .delete key => .ask (.del key) fun r => .done (failed "del" r)

/-- The error of a server that cannot be addressed. -/
def openError (a : Address) (cause : String) : SystemError :=
  .database "open" (a.uri ++ ": " ++ cause)

/-- The error of a server that cannot be reached. -/
def connectError (a : Address) (cause : String) : SystemError :=
  .database "connect" (a.uri ++ ": " ++ cause)

end ChassisAdmin.Store.Redis
