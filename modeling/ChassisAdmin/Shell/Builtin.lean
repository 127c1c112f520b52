import ChassisAdmin.Shell.Arithmetic
import ChassisAdmin.Text.Utf8

/-!
# Commands that are part of the shell

The commands here look at their operands and write something: `echo`, `printf`
and `test`, which is also called `[`.

`echo` and `printf` know escapes, which begin with a backslash.  Some letters
stand for control characters, and up to three octal digits for a byte.  Where no
escape follows, the backslash stands for itself.  In `echo`, and for `%b` in
`printf`, the digits may follow a zero, and `\c` ends all output.
-/

namespace ChassisAdmin.Shell.Builtin

/-- What a command wrote and with which status it ended. -/
structure Effect where
  /-- The exit status. -/
  status : Nat
  /-- The bytes on the standard output. -/
  output : List UInt8
  /-- What the command complains about. -/
  complaint : Option String
  deriving DecidableEq, Repr

/-- A command that only ends. -/
def Effect.ended (status : Nat) : Effect := ⟨status, [], none⟩

/-- The bytes of a text. -/
def bytes (cs : List Char) : List UInt8 := Text.Utf8.encode (String.ofList cs)

/-! ## Escapes -/

/-- What an escape stands for. -/
inductive Escaped where
  /-- A byte. -/
  | byte (b : UInt8)
  /-- The end of all output. -/
  | stop
  /-- No escape. -/
  | nothing
  deriving DecidableEq, Repr

/-- Whether a character is an octal digit. -/
def isOctal (c : Char) : Bool := '0' ≤ c ∧ c ≤ '7'

/-- The byte that octal digits make. -/
def octalByte (cs : List Char) : UInt8 :=
  (cs.foldl (fun n c => 8 * n + (c.toNat - '0'.toNat)) 0 : Nat).toUInt8

/-- The control character that a letter stands for. -/
def control? : Char → Option Nat
  | 'a' => some 7
  | 'b' => some 8
  | 'e' => some 27
  | 'f' => some 12
  | 'n' => some 10
  | 'r' => some 13
  | 't' => some 9
  | 'v' => some 11
  | '\\' => some 92
  | _ => none

/-- The escape after a backslash, and the number of characters it takes. -/
def escapeAt (inOperand : Bool) (cs : List Char) : Escaped × Nat :=
  let digits := (cs.take 3).takeWhile isOctal
  match cs with
  | [] => (.nothing, 0)
  | c :: r =>
      if inOperand ∧ c = 'c' then (.stop, 1)
      else if inOperand ∧ c = '0' then
        let more := (r.take 3).takeWhile isOctal
        (.byte (octalByte more), more.length + 1)
      else if !digits.isEmpty then (.byte (octalByte digits), digits.length)
      else
        match control? c with
        | some n => (.byte n.toUInt8, 1)
        | none => (.nothing, 0)

/-- The bytes of a text with escapes, of which so many characters have been read already, and
whether output goes on. -/
def unescape : Nat → List Char → List UInt8 × Bool
  | _, [] => ([], true)
  | skip + 1, _ :: cs => unescape skip cs
  | 0, c :: cs =>
      if c = '\\' then
        match escapeAt true cs with
        | (.byte b, n) =>
            let r := unescape n cs
            (b :: r.1, r.2)
        | (.stop, _) => ([], false)
        | (.nothing, _) =>
            let r := unescape 0 cs
            (92 :: r.1, r.2)
      else
        let r := unescape 0 cs
        (bytes [c] ++ r.1, r.2)

/-! ## The command that echoes -/

/-- Writes words with a space between each two and, unless told not to, a line feed at the end. -/
def echo (args : List String) : Effect :=
  let (silent, words) := match args with
    | "-n" :: words => (true, words)
    | words => (false, words)
  let text := unescape 0 (" ".intercalate words).toList
  ⟨0, if text.2 && !silent then text.1 ++ [10] else text.1, none⟩

/-! ## The command that formats -/

/-- How an operand is laid out. -/
structure Layout where
  /-- Whether it stands on the left of its field. -/
  left : Bool
  /-- Whether numbers are filled up with zeros. -/
  zeros : Bool
  /-- Whether a number that is not negative has a sign. -/
  signed : Bool
  /-- The width of the field. -/
  width : Nat
  /-- The greatest number of bytes, or the least number of digits. -/
  precision : Option Nat
  /-- The kind of the operand. -/
  kind : Char

/-- The flags of a directive. -/
def flags : List Char := "-+ #0".toList

/-- The directive after a percent sign, and the number of characters it takes. -/
def layoutAt (cs : List Char) : Option (Layout × Nat) :=
  let fs := cs.takeWhile flags.contains
  let r := cs.drop fs.length
  let width := r.takeWhile Char.isDigit
  let r := r.drop width.length
  let precision := match r with
    | '.' :: r => some (r.takeWhile Char.isDigit)
    | _ => none
  let r := r.drop (precision.elim 0 (·.length + 1))
  match r with
  | kind :: _ => some (⟨fs.contains '-', fs.contains '0', fs.contains '+', Text.digitsValue width,
      precision.map Text.digitsValue, kind⟩, cs.length - r.length + 1)
  | [] => none

/-- Bytes in their field. -/
def Layout.placed (l : Layout) (b : List UInt8) : List UInt8 :=
  let fill (x : UInt8) : List UInt8 := List.replicate (l.width - b.length) x
  if l.left then b ++ fill 32
  else if l.zeros ∧ l.kind ≠ 's' ∧ l.kind ≠ 'c' ∧ l.kind ≠ 'b' then
    let sign := b.takeWhile fun x => x = 45 ∨ x = 43
    sign ++ fill 48 ++ b.drop sign.length
  else fill 32 ++ b

/-- The digits of a number as a directive writes them. -/
def Layout.digits (l : Layout) (n : Int) : List Char :=
  match l.kind with
  | 'o' => Nat.toDigits 8 (Arithmetic.bits n)
  | 'x' => Nat.toDigits 16 (Arithmetic.bits n)
  | 'X' => (Nat.toDigits 16 (Arithmetic.bits n)).map Char.toUpper
  | 'u' => Text.digits (Arithmetic.bits n)
  | _ => (if l.signed ∧ 0 ≤ n then ['+'] else []) ++ (Text.signedDecimal n).toList

/-- The number that an operand makes: a number, or the code of a character after a quote. -/
def operandNumber (operand : String) : Option Int :=
  match operand.toList with
  | '"' :: c :: _ | '\'' :: c :: _ => some c.toNat
  | [] => some 0
  | cs => Arithmetic.integer? cs

/-- What a pass over the format has done so far. -/
structure Pass where
  /-- The bytes written, last first. -/
  written : List UInt8
  /-- The operands still to be used. -/
  operands : List String
  /-- Whether an operand was asked for. -/
  asked : Bool
  /-- Whether output goes on. -/
  running : Bool
  /-- What there is to complain about, and the status for that. -/
  complaint : Option (Nat × String)

/-- Adds bytes. -/
def Pass.write (p : Pass) (b : List UInt8) : Pass := { p with written := b.reverse ++ p.written }

/-- Writes the next operand. -/
def Pass.writeOperand (p : Pass) (l : Layout) : Pass :=
  let operand := p.operands.headD ""
  let p := { p with operands := p.operands.tail, asked := true }
  match l.kind with
  | 's' =>
      let b := bytes operand.toList
      p.write (l.placed (l.precision.elim b b.take))
  | 'c' => p.write (l.placed ((bytes operand.toList).take 1))
  | 'b' =>
      let r := unescape 0 operand.toList
      { p.write (l.placed r.1) with running := r.2 }
  | _ =>
      match operandNumber operand with
      | some n => p.write (l.placed (bytes (l.digits n)))
      | none =>
          { p.write (l.placed [48]) with
            complaint := some (1, "printf: " ++ operand ++ ": expected numeric value") }

/-- The kinds of directives. -/
def kinds : List Char := "diouxXscb".toList

/-- Goes over a format once, of which so many characters have been read already. -/
def format : Nat → List Char → Pass → Pass
  | _, [], p => p
  | skip + 1, _ :: cs, p => format skip cs p
  | 0, c :: cs, p =>
      if !p.running then p
      else if c = '\\' then
        match escapeAt false cs with
        | (.byte b, n) => format n cs (p.write [b])
        | _ => format 0 cs (p.write [92])
      else if c = '%' then
        match cs.head?, layoutAt cs with
        | some '%', _ => format 1 cs (p.write [37])
        | _, some (l, n) =>
            if kinds.contains l.kind then format n cs (p.writeOperand l)
            else
              let directive := "%" ++ String.ofList (cs.take n)
              { p with
                running := false
                complaint := some (2, "printf: " ++ directive ++ ": invalid directive") }
        | _, none =>
            { p with running := false, complaint := some (2, "printf: missing format character") }
      else format 0 cs (p.write (bytes [c]))

/-- Goes over a format as often as there are operands left for it. -/
def formatAll (cs : List Char) : Nat → Pass → Pass
  | 0, p => p
  | n + 1, p =>
      let p := format 0 cs { p with asked := false }
      if p.asked ∧ !p.operands.isEmpty ∧ p.running then formatAll cs n p else p

/-- Writes operands as a format says. -/
def printf (args : List String) : Effect :=
  match (if args.head? = some "--" then args.tail else args) with
  | [] => ⟨2, [], some "printf: usage: printf format [arg ...]"⟩
  | pattern :: operands =>
      let p := formatAll pattern.toList (operands.length + 1) ⟨[], operands, false, true, none⟩
      ⟨p.complaint.elim 0 (·.1), p.written.reverse, p.complaint.map (·.2)⟩

/-! ## The command that tests -/

/-- Compares two numbers. -/
def compared (op : String) (a b : Int) : Option Bool :=
  match op with
  | "-eq" => some (a == b)
  | "-ne" => some (a != b)
  | "-lt" => some (a < b)
  | "-le" => some (a ≤ b)
  | "-gt" => some (b < a)
  | "-ge" => some (b ≤ a)
  | _ => none

/-- The number that a side of a comparison makes. -/
def side (s : String) : Except String Int :=
  match Arithmetic.integer? (s.toList.dropWhile (· = ' ')) with
  | some n => .ok n
  | none => .error ("Illegal number: " ++ s)

/-- The operators of tests with two operands. -/
def binaryOperators : List String := ["=", "!=", "-eq", "-ne", "-lt", "-le", "-gt", "-ge"]

/-- Whether a word is an operator of a test with one operand. -/
def isUnary (s : String) : Bool :=
  match s.toList with
  | ['-', c] => "bcdefghknprstuwxzLOSG".toList.contains c
  | _ => false

/-- Whether a word that looks like an operator is an operand, from the words after it. -/
def isOperand : List String → Bool
  | [] => true
  | [_] => false
  | next :: _ => binaryOperators.contains next

/-- The outcome of an operator with one operand.  There are no files. -/
def unary (op operand : String) : Bool :=
  match op with
  | "-n" => operand != ""
  | "-z" => operand == ""
  | _ => false

/-- The outcome of an operator with two operands. -/
def binary (a op b : String) : Except String Bool :=
  match op with
  | "=" => .ok (a == b)
  | "!=" => .ok (a != b)
  | _ => do return (compared op (← side a) (← side b)).getD false

/-- The outcome of a part of a test, the last word of the part and the words after it. -/
abbrev Tested := Except String (Bool × String × List String)

mutual

/-- Evaluates a word, a comparison or a test in parentheses. -/
def primary : Nat → List String → Tested
  | fuel + 1, a :: rest =>
      if a = "!" ∧ !isOperand rest then do
        let (b, r) ← primary fuel rest
        return (!b, r)
      else if a = "(" ∧ !isOperand rest then
        match alternatives fuel rest with
        | .ok (b, _, ")" :: rest) => .ok (b, ")", rest)
        | .ok _ => .error "closing paren expected"
        | .error e => .error e
      else
        match isUnary a && !isOperand rest, rest with
        | true, operand :: rest => .ok (unary a operand, operand, rest)
        | _, op :: more =>
            if binaryOperators.contains op then
              match more with
              | b :: rest => do return (← binary a op b, b, rest)
              | [] => .error (op ++ ": argument expected")
            else .ok (a != "", a, rest)
        | _, [] => .ok (a != "", a, [])
  | _, rest => .ok (false, "", rest)

/-- Evaluates parts of which all have to hold. -/
def conjunction : Nat → List String → Tested
  | 0, rest => .ok (false, "", rest)
  | fuel + 1, args => do
      match ← primary fuel args with
      | (b, _, "-a" :: rest) =>
          let (c, r) ← conjunction fuel rest
          return (b && c, r)
      | r => return r

/-- Evaluates parts of which one has to hold. -/
def alternatives : Nat → List String → Tested
  | 0, rest => .ok (false, "", rest)
  | fuel + 1, args => do
      match ← conjunction fuel args with
      | (b, _, "-o" :: rest) =>
          let (c, r) ← alternatives fuel rest
          return (b || c, r)
      | r => return r

end

/-- The outcome of a test. -/
def holds (args : List String) : Except String Bool :=
  match alternatives (3 * args.length + 3) args with
  | .ok (b, _, []) => .ok b
  | .ok (_, last, _) => .error (last ++ ": unexpected operator")
  | .error e => .error e

/-- Tests operands. -/
def test (name : String) (args : List String) : Effect :=
  match holds args with
  | .ok b => .ended (if b then 0 else 1)
  | .error e => ⟨2, [], some (name ++ ": " ++ e)⟩

/-- Tests operands up to a closing bracket. -/
def bracket (args : List String) : Effect :=
  if args.getLast? = some "]" then test "[" args.dropLast else ⟨2, [], some "[: missing ]"⟩

/-- The effect of a command that is part of the shell and only writes. -/
def effect? (name : String) (args : List String) : Option Effect :=
  match name with
  | "echo" => some (echo args)
  | "printf" => some (printf args)
  | "test" => some (test "test" args)
  | "[" => some (bracket args)
  | ":" | "true" | "sleep" | "wait" => some (.ended 0)
  | "false" => some (.ended 1)
  | _ => none

end ChassisAdmin.Shell.Builtin
