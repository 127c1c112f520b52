import ChassisAdmin.Shell.Word
import ChassisAdmin.Text.Decimal

/-!
# Arithmetic of the shell

An expression is made of numbers, names and operators over integers of 64 bits,
which wrap around.  A name stands for the number that is its value, and for 0
where it has none.  Numbers are decimal, octal after a zero and hexadecimal
after `0x`.  A comparison gives 1 or 0.

Operators of two operands have levels.  Those of a later level bind tighter, and
those of one level group to the left.
-/

namespace ChassisAdmin.Shell.Arithmetic

/-- The number of integers of 64 bits. -/
def modulus : Nat := 18446744073709551616

/-- An integer wrapped around to 64 bits. -/
def wrapped (n : Int) : Int := Int.bmod n modulus

/-- The bits of an integer, as a number. -/
def bits (n : Int) : Nat := (n % modulus).toNat

/-- A token of an expression. -/
inductive Token where
  /-- A number. -/
  | number (n : Int)
  /-- An operator or a parenthesis. -/
  | symbol (s : String)
  deriving DecidableEq, Repr

/-- The operators of two operands, level by level. -/
def levels : List (List String) :=
  [["||"], ["&&"], ["|"], ["^"], ["&"], ["==", "!="], ["<=", ">=", "<", ">"], ["<<", ">>"],
    ["+", "-"], ["*", "/", "%"]]

/-- The symbols of expressions.  Each stands in front of those it begins with. -/
def symbols : List String :=
  ["||", "&&", "==", "!=", "<=", ">=", "<<", ">>", "|", "^", "&", "<", ">", "+", "-", "*", "/",
    "%", "(", ")", "!", "~"]

/-! ## Numbers -/

/-- The value of a digit in bases up to 16. -/
def digitValue (c : Char) : Nat :=
  if c.isDigit then c.toNat - '0'.toNat
  else if 'a' ≤ c ∧ c ≤ 'f' then c.toNat - 'a'.toNat + 10
  else if 'A' ≤ c ∧ c ≤ 'F' then c.toNat - 'A'.toNat + 10
  else 16

/-- The number that digits make in a base. -/
def numeral? (base : Nat) (cs : List Char) : Option Int :=
  if cs.isEmpty ∨ cs.any (base ≤ digitValue ·) then none
  else some (cs.foldl (fun n c => base * n + digitValue c) 0 : Nat)

/-- The number that a text without a sign makes. -/
def unsigned? : List Char → Option Int
  | '0' :: 'x' :: cs | '0' :: 'X' :: cs => numeral? 16 cs
  | '0' :: c :: cs => numeral? 8 (c :: cs)
  | cs => numeral? 10 cs

/-- The number that a text makes, as the value of a name. -/
def integer? : List Char → Option Int
  | '-' :: cs => (unsigned? cs).map (-·)
  | '+' :: cs => unsigned? cs
  | cs => unsigned? cs

/-- The value of a name, where names have the given texts. -/
def valueOf (lookup : String → List Char) (name : List Char) : Except String Int :=
  match lookup (String.ofList name) with
  | [] => .ok 0
  | cs =>
      match integer? cs with
      | some n => .ok (wrapped n)
      | none => .error ("Illegal number: " ++ String.ofList cs)

/-! ## Reading -/

/-- The wording of a mistake in an expression. -/
def mistake (what : String) (expression : List Char) : String :=
  "arithmetic expression: " ++ what ++ ": \"" ++ String.ofList expression ++ "\""

/-- The tokens of an expression, of which so many characters have been read already. -/
def tokens (lookup : String → List Char) (all : List Char) : Nat → List Char →
    Except String (List Token)
  | _, [] => .ok []
  | skip + 1, _ :: cs => tokens lookup all skip cs
  | 0, c :: cs =>
      let name := cs.takeWhile isNameChar
      if c = ' ' ∨ c = '\t' ∨ c = '\n' ∨ (c = '$' ∧ !name.isEmpty) then tokens lookup all 0 cs
      else if isNameStart c then do
        let n ← valueOf lookup (c :: name)
        return .number n :: (← tokens lookup all name.length cs)
      else if c.isDigit then
        match unsigned? (c :: name) with
        | some n => do return .number (wrapped n) :: (← tokens lookup all name.length cs)
        | none => .error (mistake "expecting EOF" all)
      else
        match symbols.find? fun s => s.toList.isPrefixOf (c :: cs) with
        | some s => do return .symbol s :: (← tokens lookup all (s.length - 1) cs)
        | none => .error (mistake "expecting primary" all)

/-! ## Evaluation -/

/-- The number of a comparison. -/
def truth (b : Bool) : Int := if b then 1 else 0

/-- Applies an operator to two operands, if that makes sense. -/
def apply (s : String) (a b : Int) : Option Int :=
  match s with
  | "||" => some (truth (a != 0 || b != 0))
  | "&&" => some (truth (a != 0 && b != 0))
  | "|" => some (bits a ||| bits b : Nat)
  | "^" => some (bits a ^^^ bits b : Nat)
  | "&" => some (bits a &&& bits b : Nat)
  | "==" => some (truth (a == b))
  | "!=" => some (truth (a != b))
  | "<=" => some (truth (a ≤ b))
  | ">=" => some (truth (b ≤ a))
  | "<" => some (truth (a < b))
  | ">" => some (truth (b < a))
  | "<<" => some (a * (Nat.pow 2 (b % 64).toNat : Nat))
  | ">>" => some (a / (Nat.pow 2 (b % 64).toNat : Nat))
  | "+" => some (a + b)
  | "-" => some (a - b)
  | "*" => some (a * b)
  | "/" => if b = 0 then none else some (a.tdiv b)
  | "%" => if b = 0 then none else some (a.tmod b)
  | _ => none

mutual

/-- Evaluates an operand. -/
def operand (all : List Char) : Nat → List Token → Except String (Int × List Token)
  | fuel + 1, .symbol s :: ts =>
      if s = "(" then
        match level all fuel levels ts with
        | .ok (n, .symbol ")" :: ts) => .ok (n, ts)
        | .ok _ => .error (mistake "expecting ')'" all)
        | .error e => .error e
      else do
        let (n, ts) ← operand all fuel ts
        match s with
        | "-" => return (wrapped (-n), ts)
        | "+" => return (n, ts)
        | "!" => return (truth (n == 0), ts)
        | "~" => return (-n - 1, ts)
        | _ => throw (mistake "expecting primary" all)
  | _, .number n :: ts => .ok (n, ts)
  | _, _ => .error (mistake "expecting primary" all)

/-- Evaluates operands joined by the operators of some levels. -/
def level (all : List Char) : Nat → List (List String) → List Token →
    Except String (Int × List Token)
  | 0, _, _ => .error (mistake "expecting primary" all)
  | fuel + 1, [], ts => operand all fuel ts
  | fuel + 1, ops :: more, ts => do
      let (n, ts) ← level all fuel more ts
      joined all fuel ops more n ts

/-- Goes on with the operators of a level after an operand. -/
def joined (all : List Char) : Nat → List String → List (List String) → Int → List Token →
    Except String (Int × List Token)
  | fuel + 1, ops, more, a, .symbol s :: ts =>
      if ops.contains s then do
        let (b, ts) ← level all fuel more ts
        match apply s a b with
        | some n => joined all fuel ops more (wrapped n) ts
        | none => throw (mistake "division by zero" all)
      else .ok (a, .symbol s :: ts)
  | _, _, _, a, ts => .ok (a, ts)

end

/-- Evaluates an expression, where names have the given texts. -/
def evaluate (lookup : String → List Char) (expression : List Char) : Except String Int := do
  let ts ← tokens lookup expression 0 expression
  if ts.isEmpty then return 0
  let (n, rest) ← level expression (16 * (ts.length + 1)) levels ts
  if rest.isEmpty then return n else throw (mistake "expecting EOF" expression)

example : (evaluate (fun _ => "41".toList) "i+1".toList).toOption = some 42 := by decide

example : (evaluate (fun _ => []) "(2+3)*-4 % 7 < 1".toList).toOption = some 1 := by decide

end ChassisAdmin.Shell.Arithmetic
