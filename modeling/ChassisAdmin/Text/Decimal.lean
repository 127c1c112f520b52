/-!
# Numbers in base ten

Numbers are written with the fewest ASCII digits, or filled up with zeros to a
width, and read from a non-empty run of ASCII digits of any length.
-/

namespace ChassisAdmin.Text

/-- The digits of a number, without leading zeros. -/
def digits (n : Nat) : List Char := Nat.toDigits 10 n

/-- A number in base ten. -/
def decimal (n : Nat) : String := String.ofList (digits n)

/-- An integer in base ten, with a minus sign when it is negative. -/
def signedDecimal (z : Int) : String :=
  if z < 0 then "-" ++ decimal z.natAbs else decimal z.natAbs

/-- The digits of a number after as many zeros as reach a width. -/
def paddedDigits (width n : Nat) : List Char :=
  List.replicate (width - (digits n).length) '0' ++ digits n

/-- The value of an ASCII digit. -/
def digitValue (c : Char) : Nat := c.toNat - '0'.toNat

/-- The value of digits in base ten. -/
def digitsValue (cs : List Char) : Nat := cs.foldl (fun n c => 10 * n + digitValue c) 0

/-- Reads a non-empty run of ASCII digits. -/
def natOfDigits (cs : List Char) : Option Nat :=
  if cs ≠ [] ∧ cs.all Char.isDigit then some (digitsValue cs) else none

/-- The longest run at the end of a list whose members all satisfy a test. -/
def trailingRun {α : Type} (p : α → Bool) (xs : List α) : List α :=
  (xs.reverse.takeWhile p).reverse

/-- What stands before the longest run at the end whose members all satisfy a test. -/
def beforeTrailingRun {α : Type} (p : α → Bool) (xs : List α) : List α :=
  (xs.reverse.dropWhile p).reverse

theorem beforeTrailingRun_append {α : Type} (p : α → Bool) (xs : List α) :
    beforeTrailingRun p xs ++ trailingRun p xs = xs := by
  rw [beforeTrailingRun, trailingRun, ← List.reverse_append, List.takeWhile_append_dropWhile,
    List.reverse_reverse]

example : natOfDigits "0042".toList = some 42 ∧ natOfDigits [] = none ∧
    natOfDigits "4٣".toList = none := by decide

example : paddedDigits 4 25 = ['0', '0', '2', '5'] := by decide

end ChassisAdmin.Text
