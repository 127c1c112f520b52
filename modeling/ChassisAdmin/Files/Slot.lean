import ChassisAdmin.FileError
import ChassisAdmin.Text.Utf8

/-!
# Calls on files

The library asks five things of a file: to read it, to say whether anything
stands at its path, to add bytes at its end, to replace its content and to
remove it.  A file that a call creates is readable and writable for its owner
only.  Replacing gives an older file the same mode, and adding leaves its mode
alone.

A `Slot` is what stands at one path.  `Slot.answer` says what each call does
with it.  Other programs touch files too.  A file they create is readable for
everybody, and they may change its mode.
-/

namespace ChassisAdmin.Files

/-- A call on a file. -/
inductive Call where
  /-- Reads a file. -/
  | read (path : String)
  /-- Asks whether anything stands at a path. -/
  | isPresent (path : String)
  /-- Adds bytes at the end of a file, which is created if need be. -/
  | append (path : String) (bytes : List UInt8)
  /-- Replaces the content of a file, which is created if need be. -/
  | replace (path : String) (bytes : List UInt8)
  /-- Removes a file. -/
  | remove (path : String)
  deriving DecidableEq, Repr

namespace Call

/-- What a call that succeeds answers with. -/
abbrev Value : Call → Type
  | read _ => List UInt8
  | isPresent _ => Bool
  | append .. | replace .. | remove _ => Unit

/-- The path of a call. -/
def path : Call → String
  | read p | isPresent p | append p _ | replace p _ | remove p => p

end Call

/-- The answer to a call. -/
abbrev Answer (c : Call) : Type := Except FileError c.Value

/-- The text of a file's bytes. -/
def textOf (bytes : List UInt8) : Except FileError String :=
  match Text.Utf8.decode bytes with
  | some s => .ok s
  | none => .error .notText

/-- The mode of files that are readable and writable for their owner only. -/
def ownerOnly : Nat := 0o600

/-- What stands at a path. -/
inductive Slot where
  /-- Nothing, and a file can be created. -/
  | free
  /-- A file with its mode and its bytes. -/
  | file (mode : Nat) (bytes : List UInt8)
  /-- A directory. -/
  | directory
  /-- The path leads nowhere. -/
  | unreachable (cause : FileError)
  deriving DecidableEq, Repr

namespace Slot

/-- What stands at a path after a call that writes a file. -/
def written (s : Slot) (update : Nat → List UInt8 → Slot) (bytes : List UInt8) :
    Except FileError Unit × Slot :=
  match s with
  | free => (.ok (), file ownerOnly bytes)
  | file mode old => (.ok (), update mode old)
  | directory => (.error .isDirectory, directory)
  | unreachable cause => (.error cause, unreachable cause)

/-- Answers a call. -/
def answer : (c : Call) → Slot → Answer c × Slot
  | .read _, s =>
      match s with
      | free => (.error .notFound, free)
      | file mode bytes => (.ok bytes, file mode bytes)
      | directory => (.error .isDirectory, directory)
      | unreachable cause => (.error cause, unreachable cause)
  | .isPresent _, s =>
      match s with
      | free => (.ok false, free)
      | unreachable .notFound => (.ok false, unreachable .notFound)
      | unreachable cause => (.error cause, unreachable cause)
      | s => (.ok true, s)
  | .append _ bytes, s => s.written (fun mode old => file mode (old ++ bytes)) bytes
  | .replace _ bytes, s => s.written (fun _ _ => file ownerOnly bytes) bytes
  | .remove _, s =>
      match s with
      | free => (.error .notFound, free)
      | file .. => (.ok (), free)
      | directory => (.error .isDirectory, directory)
      | unreachable cause => (.error cause, unreachable cause)

/-- The mode of files that other programs create. -/
def readableForAll : Nat := 0o644

/-- What stands at a path after another program has written a file there. -/
def overwritten (s : Slot) (bytes : List UInt8) : Slot :=
  match s with
  | free => file readableForAll bytes
  | file mode _ => file mode bytes
  | s => s

/-- What stands at a path after another program has changed the mode of a file there. -/
def withMode (s : Slot) (mode : Nat) : Slot :=
  match s with
  | file _ bytes => file mode bytes
  | s => s

end Slot

end ChassisAdmin.Files
