import ChassisAdmin.Store.Redis
import ChassisAdmin.Text.Utf8

/-!
# A server of databases in memory

A server that keeps its databases in memory under their numbers.  It can be told
to refuse addresses, connections to a database by its number and commands by
their names.

Keys are matched byte by byte: in a pattern a star stands for any bytes and a
question mark for any one byte, also where that byte is only a part of a
character.  Classes of characters and escapes are left out.

Replacing a hash is a transaction of two commands.  It is refused as a whole
where `exec` is.  Where only the second command is refused, the first has already
deleted the hash.
-/

namespace ChassisAdmin.Simulation

open Store
open Store.Redis (Command Hash Reply)

/-! ## Patterns -/

/-- Whether a text or what is left of it after some of its bytes passes. -/
def someRest (passes : List UInt8 → Bool) : List UInt8 → Bool
  | [] => passes []
  | b :: bs => passes (b :: bs) || someRest passes bs

/-- Whether the bytes of a pattern match those of a text. -/
def matchesBytes : List UInt8 → List UInt8 → Bool
  | [], text => text.isEmpty
  | p :: pattern, text =>
      if p = '*'.toUInt8 then someRest (matchesBytes pattern) text
      else text.head?.any (fun b => p = '?'.toUInt8 || p = b) && matchesBytes pattern text.tail

/-- Whether a pattern matches a key. -/
def matchesKey (pattern key : String) : Bool :=
  matchesBytes (Text.Utf8.encode pattern) (Text.Utf8.encode key)

/-! ## Databases -/

/-- The hashes of a database under their keys. -/
abbrev Hashes := Keyed Hash

/-- A server of databases. -/
structure RedisServer where
  /-- The databases by number. -/
  database : Nat → Hashes
  /-- Why addresses are refused. -/
  openFailure : Option String
  /-- Why connections to the databases with some numbers are refused. -/
  connectFailures : List (Nat × String)
  /-- Why the commands with some names are refused. -/
  commandFailures : List (String × String)

namespace RedisServer

/-- A server with no database and no failures. -/
def empty : RedisServer := ⟨fun _ => .empty, none, [], []⟩

instance : Inhabited RedisServer := ⟨empty⟩

/-- The server with another content of a database. -/
def withDatabase (s : RedisServer) (number : Nat) (hashes : Hashes) : RedisServer :=
  { s with database := fun n => if n = number then hashes else s.database n }

/-- Puts records into a database. -/
def seed (s : RedisServer) (number : Nat) (records : List (String × String × Fields)) :
    RedisServer :=
  s.withDatabase number
    (records.foldl (fun h r => h.insert (rawKey r.1 r.2.1) (Keyed.ofList r.2.2))
      (s.database number))

/-- Refuses a command that is told to fail by name, or carries on. -/
def unlessFailing {α : Type} (s : RedisServer) (name : String) (go : Except String α) :
    Except String α :=
  match s.commandFailures.find? (·.1 == name) with
  | some (_, cause) => .error cause
  | none => go

/-- Replaces a hash in two commands of one transaction.  The second is left out for no fields. -/
def replace (s : RedisServer) (number : Nat) (key : String) (fields : Fields) :
    Except String Unit × RedisServer :=
  let hashes := s.database number
  match s.unlessFailing "exec" (s.unlessFailing "del" (.ok ())) with
  | .error cause => (.error cause, s)
  | .ok () =>
      if fields.isEmpty then (.ok (), s.withDatabase number (hashes.erase key))
      else
        match s.unlessFailing "hset" (.ok ()) with
        | .error cause => (.error cause, s.withDatabase number (hashes.erase key))
        | .ok () => (.ok (), s.withDatabase number (hashes.insert key (Keyed.ofList fields)))

/-- Answers a command on a database. -/
def answer (number : Nat) : (c : Command) → RedisServer → Reply c × RedisServer
  | .hgetall key, s =>
      (s.unlessFailing "hgetall" (.ok (((s.database number).get? key).getD .empty)), s)
  | .replace key fields, s => s.replace number key fields
  | .keys pattern, s =>
      let keys := (s.database number).keys
      (s.unlessFailing "keys" (.ok (keys.filter (matchesKey pattern))), s)
  | .hget key field, s =>
      (s.unlessFailing "hget" (.ok (((s.database number).get? key).bind (·.get? field))), s)
  | .del key, s =>
      match s.unlessFailing "del" (.ok ()) with
      | .error cause => (.error cause, s)
      | .ok () => (.ok (), s.withDatabase number ((s.database number).erase key))

/-- Connects to a database. -/
def connect (s : RedisServer) (a : Address) : Except SystemError Unit :=
  match s.openFailure with
  | some cause => .error (Redis.openError a cause)
  | none =>
      match s.connectFailures.find? (·.1 = a.number) with
      | some (_, cause) => .error (Redis.connectError a cause)
      | none => .ok ()

/-- Answers a call on a database. -/
def answerCall (number : Nat) (c : Call) (s : RedisServer) : Answer c × RedisServer :=
  Program.run (answer number) (Redis.client c) s

end RedisServer

end ChassisAdmin.Simulation
