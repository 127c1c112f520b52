import ChassisAdmin.Toml.Value

/-!
# Putting a configuration file together

Each line of a configuration file adds something to the table that is the file.
A value is added under its key.  A heading opens a table, and a double heading
opens another table of a list.  A line that says something again, or adds to
what is complete, makes the file invalid.

* A heading may pass through tables of any origin but `inline`, and through the
  last table of a list.  What is missing on the way becomes an `implicit` table.
* A table is headed once.  A heading may come after the headings of tables
  inside it, but not after a dotted key made the table.
* A dotted key may pass through tables that have no heading yet.  What is missing
  on the way becomes a `dotted` table.
-/

namespace ChassisAdmin.Toml

/-- The kinds of ways to a table. -/
inductive Way where
  /-- Along a heading. -/
  | heading
  /-- Along a dotted key. -/
  | dotted
  deriving DecidableEq, Repr

/-- The origin of a table that is missing on a way. -/
def Way.origin : Way → Origin
  | heading => .implicit
  | dotted => .dotted

/-- Whether a way may pass through a table. -/
def Way.passes : Way → Origin → Bool
  | heading, o => o ≠ .inline
  | dotted, o => o = .implicit || o = .dotted

/-- Follows keys through tables and changes the table they lead to. -/
def descend (way : Way) : List String → (Entries → Option Entries) → Entries → Option Entries
  | [], f, t => f t
  | k :: ks, f, t =>
      match Entries.get? t k with
      | none => (descend way ks f []).map fun e => Entries.set t k (.table way.origin e)
      | some (.table o e) =>
          if way.passes o then
            (descend way ks f e).map fun e => Entries.set t k (.table o e)
          else none
      | some (.tables ts) =>
          match way, ts.getLast? with
          | .heading, some e =>
              (descend way ks f e).map fun e => Entries.set t k (.tables (ts.dropLast ++ [e]))
          | _, _ => none
      | some _ => none

/-- Adds a value under a new key. -/
def addNew (k : String) (v : Value) (t : Entries) : Option Entries :=
  if (Entries.get? t k).isSome then none else some (t ++ [(k, v)])

/-- Opens the table of a heading. -/
def openTable (k : String) (t : Entries) : Option Entries :=
  match Entries.get? t k with
  | none => some (t ++ [(k, .table .heading [])])
  | some (.table .implicit e) => some (Entries.set t k (.table .heading e))
  | some _ => none

/-- Opens another table of a list of tables. -/
def openListed (k : String) (t : Entries) : Option Entries :=
  match Entries.get? t k with
  | none => some (t ++ [(k, .tables [[]])])
  | some (.tables ts) => some (Entries.set t k (.tables (ts ++ [[]])))
  | some _ => none

/-- What a line of a configuration file says.  Keys have one part or more. -/
inductive Statement where
  /-- Heads a table. -/
  | heading (path : List String) (key : String)
  /-- Heads another table of a list. -/
  | listHeading (path : List String) (key : String)
  /-- Gives a key a value. -/
  | entry (path : List String) (key : String) (value : Value)

/-- A file read so far. -/
structure Draft where
  /-- The table that is the file. -/
  root : Entries
  /-- The keys of the heading above. -/
  current : List String

/-- Adds a line to a file. -/
def Draft.add (d : Draft) : Statement → Option Draft
  | .heading path k => (descend .heading path (openTable k) d.root).map (⟨·, path ++ [k]⟩)
  | .listHeading path k => (descend .heading path (openListed k) d.root).map (⟨·, path ++ [k]⟩)
  | .entry path k v =>
      (descend .heading d.current (descend .dotted path (addNew k v)) d.root).map
        (⟨·, d.current⟩)

/-- The table that some lines make. -/
def ofStatements (lines : List Statement) : Option Entries :=
  (lines.foldlM Draft.add ⟨[], []⟩).map (·.root)

/-- The table that the entries between braces make. -/
def ofInline (entries : List (List String × String × Value)) : Option Entries :=
  entries.foldlM (fun t e => descend .dotted e.1 (addNew e.2.1 e.2.2) t) []

end ChassisAdmin.Toml
