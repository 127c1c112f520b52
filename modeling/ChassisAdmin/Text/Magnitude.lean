/-!
# Decimals beyond every double

Two formats refuse a number that is too great for a double-precision number.  A
decimal `m · 10ᵉ` rounds to infinity exactly when it reaches halfway from the
greatest finite double to the next power of two, `2¹⁰²⁴ - 2⁹⁷⁰`.  Only a decimal
that comes near this bound is multiplied out.  For the others the number of
digits in front of the point decides.
-/

namespace ChassisAdmin.Text

/-- The least number that rounds to infinity. -/
def overflowBound : Nat := Nat.pow 2 1024 - Nat.pow 2 970

/-- The number of digits of `overflowBound`. -/
def overflowDigits : Int := 309

/-- Whether `m · 10ᵉ` rounds to infinity. -/
def overflowsDouble (m : Nat) (e : Int) : Bool :=
  if m = 0 then false
  else
    let places := (Nat.toDigits 10 m).length + e
    if overflowDigits < places then true
    else if places < overflowDigits then false
    else if 0 ≤ e then overflowBound ≤ m * Nat.pow 10 e.toNat
    else overflowBound * Nat.pow 10 (-e).toNat ≤ m

end ChassisAdmin.Text
