/-!
# UTF-8 text in bytes

Files are read strictly: a file that is not UTF-8 from end to end has no text
(`decode`).  Output of commands is read leniently: each longest run of bytes that
could still have begun a character, and each byte that can begin none, becomes
one U+FFFD (`decodeLossy`).

The lenient reader takes one character at a time.  The first byte fixes how many
bytes follow and the range of the second, which rules out overlong forms,
surrogates and code points past U+10FFFF.  Every later byte lies in 80–BF.
-/

namespace ChassisAdmin.Text.Utf8

/-- The bytes of a text. -/
def encode (s : String) : List UInt8 := s.toByteArray.data.toList

/-- The text of bytes that are UTF-8 throughout. -/
def decode (bytes : List UInt8) : Option String := String.fromUTF8? ⟨bytes.toArray⟩

theorem decode_encode (s : String) : decode (encode s) = some s := by
  simp [decode, encode, String.fromUTF8?, s.isValidUTF8, String.fromUTF8]

/-- What a first byte announces: the number of bytes that follow, the range of the first of
these, and the bits of the character that the first byte holds. -/
structure Lead where
  /-- The number of bytes that follow. -/
  more : Nat
  /-- The least second byte. -/
  low : UInt8
  /-- The greatest second byte. -/
  high : UInt8
  /-- The bits of the character in the first byte. -/
  bits : Nat

/-- Reads a first byte; a byte that can begin no character announces nothing. -/
def Lead.of (b : UInt8) : Option Lead :=
  if b < 0x80 then some ⟨0, 0x80, 0xBF, b.toNat⟩
  else if b < 0xC2 then none
  else if b < 0xE0 then some ⟨1, 0x80, 0xBF, b.toNat % 32⟩
  else if b = 0xE0 then some ⟨2, 0xA0, 0xBF, b.toNat % 16⟩
  else if b = 0xED then some ⟨2, 0x80, 0x9F, b.toNat % 16⟩
  else if b < 0xF0 then some ⟨2, 0x80, 0xBF, b.toNat % 16⟩
  else if b = 0xF0 then some ⟨3, 0x90, 0xBF, b.toNat % 8⟩
  else if b < 0xF4 then some ⟨3, 0x80, 0xBF, b.toNat % 8⟩
  else if b = 0xF4 then some ⟨3, 0x80, 0x8F, b.toNat % 8⟩
  else none

/-- Reads the bytes after a first byte, the next one in a given range.  Stops before a byte
outside its range, and then there is no character. -/
def tail : Nat → UInt8 → UInt8 → Nat → List UInt8 → Option Nat × List UInt8
  | 0, _, _, acc, bs => (some acc, bs)
  | _ + 1, _, _, _, [] => (none, [])
  | n + 1, low, high, acc, b :: bs =>
      if low ≤ b ∧ b ≤ high then tail n 0x80 0xBF (acc * 64 + b.toNat % 64) bs
      else (none, b :: bs)

theorem length_tail (n : Nat) (low high : UInt8) (acc : Nat) (bs : List UInt8) :
    (tail n low high acc bs).2.length ≤ bs.length := by
  induction n generalizing low high acc bs with
  | zero => simp [tail]
  | succ n ih =>
    cases bs with
    | nil => simp [tail]
    | cons b bs =>
      unfold tail
      split
      · exact Nat.le_succ_of_le (ih ..)
      · simp

/-- The first character, or `none` where the bytes begin none, with the bytes after it. -/
def next (b : UInt8) (bs : List UInt8) : Option Char × List UInt8 :=
  match Lead.of b with
  | none => (none, bs)
  | some l =>
      let r := tail l.more l.low l.high l.bits bs
      (r.1.map Char.ofNat, r.2)

theorem length_next (b : UInt8) (bs : List UInt8) : (next b bs).2.length ≤ bs.length := by
  unfold next
  split
  · simp
  · exact length_tail ..

/-- The characters of any bytes, with U+FFFD where they are not UTF-8. -/
def chars : List UInt8 → List Char
  | [] => []
  | b :: bs => (next b bs).1.getD '\uFFFD' :: chars (next b bs).2
termination_by bs => bs.length
decreasing_by exact Nat.lt_succ_of_le (length_next b bs)

/-- The text of any bytes, with U+FFFD where they are not UTF-8. -/
def decodeLossy (bytes : List UInt8) : String := String.ofList (chars bytes)

example : (chars [0xED, 0xA0, 0x80, 0x61]).map Char.toNat = [0xFFFD, 0xFFFD, 0xFFFD, 0x61] := by
  simp [chars, next, tail, Lead.of]

example : (chars [0xF0, 0x9F, 0x9A]).map Char.toNat = [0xFFFD] := by
  simp [chars, next, tail, Lead.of]

end ChassisAdmin.Text.Utf8
