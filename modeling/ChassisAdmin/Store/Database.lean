import ChassisAdmin.Text.Decimal

/-!
# The databases of a chassis

The operator's intent is kept in CONFIG_DB, the state of this machine in
STATE_DB and the state shared by the supervisor and the line cards in
CHASSIS_STATE_DB.  Each has a number of its own on a server, which a
configuration may change, and is reached under a URI.
-/

namespace ChassisAdmin.Store

/-- A database of a chassis. -/
inductive Database where
  /-- What the operator wants. -/
  | config
  /-- The state of this machine. -/
  | state
  /-- The state shared across the chassis. -/
  | chassisState
  deriving DecidableEq, Repr

/-- The name of a database. -/
def Database.name : Database → String
  | config => "CONFIG_DB"
  | state => "STATE_DB"
  | chassisState => "CHASSIS_STATE_DB"

/-- The usual number of a database on its server. -/
def Database.defaultNumber : Database → Nat
  | config => 4
  | state => 6
  | chassisState => 13

/-- Where a database is reached. -/
structure Address where
  /-- The server. -/
  host : String
  /-- The port of the server. -/
  port : Nat
  /-- The number of the database on the server. -/
  number : Nat
  /-- The database kept there. -/
  database : Database
  deriving DecidableEq, Repr

namespace Address

/-- A database under its usual number. -/
def usual (host : String) (port : Nat) (database : Database) : Address :=
  ⟨host, port, database.defaultNumber, database⟩

/-- The same server with another number. -/
def withNumber (a : Address) (number : Nat) : Address := { a with number }

/-- The URI of a database. -/
def uri (a : Address) : String :=
  "redis://" ++ a.host ++ ":" ++ Text.decimal a.port ++ "/" ++ Text.decimal a.number

end Address

end ChassisAdmin.Store
