/-!
# Values of a configuration file

A configuration file is a table of values under keys, and its values may be
tables again.  A table remembers how it came about (`Origin`), since that decides
what later lines of the file may still add to it.

Integers and decimals are read whatever their size.  A value is `readable` if
every number in it can be held: integers in 128 bits, with a sign below zero, and
decimals below infinity.
-/

namespace ChassisAdmin.Toml

/-- How a table came about. -/
inductive Origin where
  /-- It was written between braces, and is complete. -/
  | inline
  /-- It lies on the way to a table that has a heading. -/
  | implicit
  /-- It lies on the way to a value under a dotted key. -/
  | dotted
  /-- It has a heading of its own. -/
  | heading
  deriving DecidableEq, Repr

/-- A value of a configuration file. -/
inductive Value where
  /-- A text. -/
  | text (s : String)
  /-- An integer. -/
  | integer (n : Int)
  /-- A decimal, of which only its being finite matters. -/
  | decimal (finite : Bool)
  /-- A truth value. -/
  | boolean (b : Bool)
  /-- A date or a time. -/
  | moment
  /-- A list of values. -/
  | array (items : List Value)
  /-- A table. -/
  | table (origin : Origin) (entries : List (String × Value))
  /-- Tables with one heading, to the last of which lines may still add. -/
  | tables (items : List (List (String × Value)))

/-- The entries of a table, in the order in which they were added. -/
abbrev Entries := List (String × Value)

/-- The least integer that can be held. -/
def minInteger : Int := -(Nat.pow 2 127 : Nat)

/-- The bound below which integers can be held. -/
def integerBound : Int := (Nat.pow 2 128 : Nat)

mutual

/-- Whether every number in a value can be held. -/
def Value.isReadable : Value → Bool
  | .text _ | .boolean _ | .moment => true
  | .integer n => minInteger ≤ n && n < integerBound
  | .decimal finite => finite
  | .array items => allReadable items
  | .table _ entries => entriesReadable entries
  | .tables items => tablesReadable items

/-- Whether every number in some values can be held. -/
def allReadable : List Value → Bool
  | [] => true
  | v :: vs => v.isReadable && allReadable vs

/-- Whether every number in the entries of a table can be held. -/
def entriesReadable : List (String × Value) → Bool
  | [] => true
  | (_, v) :: es => v.isReadable && entriesReadable es

/-- Whether every number in some tables can be held. -/
def tablesReadable : List (List (String × Value)) → Bool
  | [] => true
  | t :: ts => entriesReadable t && tablesReadable ts

end

namespace Entries

/-- The value under a key. -/
def get? (t : Entries) (k : String) : Option Value := (t.find? (·.1 == k)).map (·.2)

/-- The table with the value under a key replaced where it stands, or added at the end. -/
def set : Entries → String → Value → Entries
  | [], k, v => [(k, v)]
  | e :: t, k, v => if e.1 = k then (k, v) :: t else e :: set t k v

end Entries

end ChassisAdmin.Toml
