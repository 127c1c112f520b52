import ChassisAdmin.Text.Split

/-!
# Paths

A path is a text whose parts stand between slashes.  A path that begins with a
slash starts at the root, and any other where the program runs.  Two spellings
name the same place (`same`) when they have the same parts, where empty parts
count for nothing, and so does a dot unless the path begins with it.
-/

namespace ChassisAdmin.Files

/-- Whether a path starts at the root. -/
def isAbsolute (path : String) : Bool :=
  match path.toList with
  | '/' :: _ => true
  | _ => false

/-- A path followed from a directory. -/
def within (dir path : String) : String :=
  if isAbsolute path || dir = "" then path
  else if dir.toList.getLast? = some '/' then dir ++ path
  else dir ++ "/" ++ path

/-- The parts of a path between its slashes. -/
def parts (path : String) : List String := (Text.pieces '/' path.toList).map String.ofList

/-- The parts that count when places are compared. -/
def significantParts (path : String) : List String :=
  match parts path with
  | [] => []
  | p :: ps =>
      (if p = "" then [] else [p]) ++ ps.filter fun q => q ≠ "" && q ≠ "."

/-- Whether two paths spell the same place. -/
def same (p q : String) : Bool :=
  isAbsolute p = isAbsolute q && significantParts p = significantParts q

end ChassisAdmin.Files
