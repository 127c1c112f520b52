import ChassisAdmin.Files.Path
import ChassisAdmin.Files.Slot
import ChassisAdmin.Keyed

/-!
# A tree of files in memory

Directories and files under their places.  A path is followed part by part.  A
dot and an empty part stay, two dots go back, and any other part has to name
what stands in the directory reached so far.  Only the last part may name
nothing, which is then where a file can be created.

The limits on paths are those of the operating system.  A part has at most 255
bytes and a path fewer than 4096, and no path holds NUL.
-/

namespace ChassisAdmin.Simulation

open Files (Slot)

/-- What stands at a place. -/
inductive Node where
  /-- A directory. -/
  | directory
  /-- A file with its mode and its bytes. -/
  | file (mode : Nat) (bytes : List UInt8)
  deriving DecidableEq, Repr

/-- A tree of files.  The root is always a directory. -/
structure FileTree where
  /-- What stands at each place, which is written without empty parts and dots. -/
  nodes : Keyed Node

namespace FileTree

/-- The tree with nothing but its root. -/
def empty : FileTree := ⟨.empty⟩

instance : Inhabited FileTree := ⟨empty⟩

/-- The greatest length of a part in bytes. -/
def maxPart : Nat := 255

/-- The length in bytes that no path reaches. -/
def maxPath : Nat := 4096

/-- The place that parts lead to, last part first. -/
def placeOf (parts : List String) : String := Text.joined "/" parts.reverse

/-- The place to which some parts lead from a directory, whose own parts are given last part
first.  A place at which nothing stands may only be the last. -/
def follow (t : FileTree) : List String → List String → Except FileError (List String)
  | dir, [] => .ok dir
  | dir, p :: ps =>
      if p = "" || p = "." then t.follow dir ps
      else if p = ".." then t.follow dir.tail ps
      else if maxPart < p.utf8ByteSize then .error .nameTooLong
      else
        match t.nodes.get? (placeOf (p :: dir)) with
        | some .directory => t.follow (p :: dir) ps
        | some (.file ..) => if ps.isEmpty then .ok (p :: dir) else .error .notDirectory
        | none => if ps.isEmpty then .ok (p :: dir) else .error .notFound

/-- The place of a path. -/
def place (t : FileTree) (path : String) : Except FileError String :=
  if path.toList.contains '\x00' then .error .nulInName
  else if path = "" then .error .notFound
  else if maxPath ≤ path.utf8ByteSize then .error .nameTooLong
  else (t.follow [] (Files.parts path)).map placeOf

/-- What stands at a path. -/
def slot (t : FileTree) (path : String) : Slot :=
  match t.place path with
  | .error cause => .unreachable cause
  | .ok place =>
      if place = "" then .directory
      else
        match t.nodes.get? place with
        | none => .free
        | some .directory => .directory
        | some (.file mode bytes) => .file mode bytes

/-- Changes what stands at a path. -/
def update (t : FileTree) (path : String) (s : Slot) : FileTree :=
  match t.place path with
  | .error _ => t
  | .ok place =>
      match s with
      | .file mode bytes => ⟨t.nodes.insert place (.file mode bytes)⟩
      | .free => ⟨t.nodes.erase place⟩
      | .directory | .unreachable _ => t

/-- Makes the directories to which some parts lead from a directory, whose own parts are given
last part first. -/
def makeFrom (t : FileTree) : List String → List String → FileTree
  | _, [] => t
  | dir, p :: ps =>
      if p = "" || p = "." then t.makeFrom dir ps
      else makeFrom ⟨t.nodes.insert (placeOf (p :: dir)) .directory⟩ (p :: dir) ps

/-- Makes a directory and those it lies in. -/
def makeDirectory (t : FileTree) (path : String) : FileTree := t.makeFrom [] (Files.parts path)

/-- Puts what another program has made at a path: a directory, or a file with some bytes.  The
directories it lies in are made too. -/
def put (t : FileTree) (path : String) (content : Option (List UInt8)) : FileTree :=
  match content with
  | none => t.makeDirectory path
  | some bytes =>
      let dir := Text.joined "/" (Files.parts path).dropLast
      let t := t.makeDirectory dir
      t.update path ((t.slot path).overwritten bytes)

/-- Answers a call. -/
def answer (c : Files.Call) (t : FileTree) : Files.Answer c × FileTree :=
  let r := Slot.answer c (t.slot c.path)
  (r.1, t.update c.path r.2)

end FileTree

end ChassisAdmin.Simulation
