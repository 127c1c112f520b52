import ChassisAdmin.Text.Blank
import ChassisAdmin.Text.Decimal

/-!
# Scanners

A scanner reads from the front of a text or fails, and leaves the characters
after what it has read.  Larger scanners are put together from the ones here.
`wholeText` is what a scanner reads where it leaves nothing over.

Repetition takes its bound from the text.  A scanner that reads at least one
character each time cannot succeed more often than there are characters.
-/

namespace ChassisAdmin.Text

/-- A scanner: reads from the front of a text or fails. -/
abbrev Scan := StateT (List Char) Option

/-- What a scanner reads from the whole of a text. -/
def wholeText {α : Type} (scan : Scan α) (cs : List Char) : Option α :=
  match scan cs with
  | some (a, []) => some a
  | _ => none

/-! ## Characters -/

/-- Reads one given character. -/
def scanChar (c : Char) : Scan Unit := fun cs =>
  match cs with
  | d :: r => if d = c then some ((), r) else none
  | [] => none

/-- Reads one character that satisfies a test. -/
def scanAny (p : Char → Bool) : Scan Char := fun cs =>
  match cs with
  | d :: r => if p d then some (d, r) else none
  | [] => none

/-- Reads the given characters. -/
def scanWord : List Char → Scan Unit
  | [] => return ()
  | c :: w => do
      scanChar c
      scanWord w

/-- Reads the longest run of characters that satisfy a test, which may be empty. -/
def scanWhile (p : Char → Bool) : Scan (List Char) := fun cs =>
  some (cs.takeWhile p, cs.dropWhile p)

/-- Reads the longest run of characters that satisfy a test, of which there has to be one. -/
def scanRun (p : Char → Bool) : Scan (List Char) := fun cs =>
  if (cs.takeWhile p).isEmpty then none else some (cs.takeWhile p, cs.dropWhile p)

/-- Reads blanks. -/
def scanBlanks : Scan Unit := fun cs => some ((), trimStart cs)

/-! ## Numbers -/

/-- Reads digits, at least one and as many as there are. -/
def scanDigits : Scan Nat := fun cs =>
  let ds := cs.takeWhile Char.isDigit
  if ds.isEmpty then none else some (digitsValue ds, cs.dropWhile Char.isDigit)

/-- Reads digits, at least one and at most so many. -/
def scanUpTo (most : Nat) : Scan Nat := fun cs =>
  let ds := (cs.take most).takeWhile Char.isDigit
  if ds.isEmpty then none else some (digitsValue ds, cs.drop ds.length)

/-- Reads exactly so many digits. -/
def scanExactly (count : Nat) : Scan Nat := fun cs =>
  let ds := (cs.take count).takeWhile Char.isDigit
  if ds.length = count then some (digitsValue ds, cs.drop count) else none

/-- The value of a hexadecimal digit. -/
def hexValue? (c : Char) : Option Nat :=
  if c.isDigit then some (c.toNat - '0'.toNat)
  else if 'a' ≤ c ∧ c ≤ 'f' then some (c.toNat - 'a'.toNat + 10)
  else if 'A' ≤ c ∧ c ≤ 'F' then some (c.toNat - 'A'.toNat + 10)
  else none

/-- The value of digits in a base up to sixteen. -/
def digitsValueIn (base : Nat) (cs : List Char) : Nat :=
  cs.foldl (fun n c => base * n + (hexValue? c).getD 0) 0

/-- Reads exactly so many hexadecimal digits. -/
def scanHex (count : Nat) : Scan Nat := fun cs =>
  let ds := cs.take count
  if ds.length = count ∧ ds.all (fun c => (hexValue? c).isSome) then
    some (digitsValueIn 16 ds, cs.drop count)
  else none

/-- The character with a code point, if there is one. -/
def charOfCode? (n : Nat) : Option Char := if n.isValidChar then some (Char.ofNat n) else none

/-! ## Choice and repetition -/

/-- Reads something that may be missing. -/
def scanOption {α : Type} (p : Scan α) : Scan (Option α) := fun cs =>
  match p cs with
  | some (a, r) => some (some a, r)
  | none => some (none, cs)

/-- Repeats a scanner until it fails, at most so many times. -/
def scanTimes {α : Type} (p : Scan α) : Nat → Scan (List α)
  | 0 => return []
  | n + 1 => fun cs =>
      match p cs with
      | none => some ([], cs)
      | some (a, r) => (scanTimes p n r).map fun s => (a :: s.1, s.2)

/-- Repeats a scanner until it fails. -/
def scanMany {α : Type} (p : Scan α) : Scan (List α) := fun cs => scanTimes p cs.length cs

/-- Reads one thing or more with a separator between neighbours. -/
def scanSeparated {α : Type} (sep : Scan Unit) (p : Scan α) : Scan (List α) := do
  let a ← p
  let as ← scanMany do
    sep
    p
  return a :: as

end ChassisAdmin.Text
