import Mathlib.Algebra.GroupWithZero.Nat
import Mathlib.Data.List.DropRight
import ChassisAdmin.Text.DecimalDigit
import ChassisAdmin.Text.Scan

/-!
# Reading back what was written

Numbers are written with `paddedDigits` and read by scanners that take a run of
digits.  `digitsValue_paddedDigits` says that the zeros in front do not change
the value.  The `scan…_paddedDigits` lemmas say that each scanner of digits
reads a written number and leaves what follows it.  A scanner that counts digits
needs the width for that, and the one that does not needs to be told that no
digit follows.

`scan_bind` runs a sequence of scanners one at a time.

A number at the end of a text is found as the longest run of digits there
(`trailingRun_append`, `longestEnd_iff`).
-/

namespace ChassisAdmin.Text

/-! ## Written digits -/

theorem digitsValue_paddedDigits (width n : Nat) : digitsValue (paddedDigits width n) = n := by
  have h : Nat.ofDigitChars 10 (paddedDigits width n) 0 = n := by
    rw [paddedDigits, Nat.ofDigitChars_append, Nat.ofDigitChars_replicate_zero, Nat.mul_zero]
    exact Nat.ofDigitChars_ten_toDigits
  exact h

theorem isDigit_of_mem_paddedDigits {width n : Nat} {c : Char} (h : c ∈ paddedDigits width n) :
    c.isDigit = true := by
  rcases List.mem_append.1 h with h | h
  · rw [List.eq_of_mem_replicate h]
    rfl
  · exact Nat.isDigit_of_mem_toDigits (by decide) (by decide) h

theorem length_paddedDigits {width n : Nat} (hw : 0 < width) (h : n < 10 ^ width) :
    (paddedDigits width n).length = width := by
  have hle : (digits n).length ≤ width := (Nat.length_toDigits_le_iff (by decide) hw).2 h
  rw [paddedDigits, List.length_append, List.length_replicate]
  omega

theorem paddedDigits_ne_nil (width n : Nat) : paddedDigits width n ≠ [] := by
  intro h
  exact Nat.toDigits_ne_nil (List.append_eq_nil_iff.1 h).2

/-- A written number begins with a digit. -/
theorem exists_paddedDigits_eq_cons (width n : Nat) :
    ∃ c cs, paddedDigits width n = c :: cs ∧ c.isDigit = true := by
  cases h : paddedDigits width n with
  | nil => exact absurd h (paddedDigits_ne_nil width n)
  | cons c cs =>
    have hc : c ∈ paddedDigits width n := by
      rw [h]
      exact List.mem_cons_self
    exact ⟨c, cs, rfl, isDigit_of_mem_paddedDigits hc⟩

theorem not_isBlank_of_isDigit {c : Char} (h : c.isDigit = true) : isBlank c = false := by
  have hb : 48 ≤ c.toNat ∧ c.toNat ≤ 57 := by
    simpa [Char.isDigit, UInt32.le_iff_toNat_le] using h
  simp only [isBlank, Bool.or_eq_false_iff, Bool.and_eq_false_iff, decide_eq_false_iff_not,
    beq_eq_false_iff_ne]
  omega

/-! ## Running scanners -/

/-- A sequence of scanners goes on where its first member stopped. -/
theorem scan_bind {α β : Type} {p : Scan α} {f : α → Scan β} {cs r : List Char} {a : α}
    (h : p cs = some (a, r)) : (p >>= f) cs = f a r := by
  change (p cs).bind _ = _
  rw [h]
  rfl

@[simp] theorem scanChar_cons (c : Char) (r : List Char) : scanChar c (c :: r) = some ((), r) := by
  simp [scanChar]

theorem scanAny_cons {p : Char → Bool} {c : Char} (h : p c = true) (r : List Char) :
    scanAny p (c :: r) = some (c, r) := if_pos h

/-- The run of digits at the front of a text is a written number, if no digit follows that. -/
theorem takeWhile_paddedDigits_append (width n : Nat) {rest : List Char}
    (hr : ∀ c ∈ rest.head?, c.isDigit = false) :
    (paddedDigits width n ++ rest).takeWhile Char.isDigit = paddedDigits width n ∧
      (paddedDigits width n ++ rest).dropWhile Char.isDigit = rest := by
  have hd : ∀ c ∈ paddedDigits width n, c.isDigit = true := fun _ => isDigit_of_mem_paddedDigits
  rw [List.takeWhile_append_of_pos hd, List.dropWhile_append_of_pos hd]
  cases rest with
  | nil => simp
  | cons c r =>
    have hc : c.isDigit = false := hr c rfl
    simp [hc]

theorem takeWhile_paddedDigits (width n : Nat) :
    (paddedDigits width n).takeWhile Char.isDigit = paddedDigits width n ∧
      (paddedDigits width n).dropWhile Char.isDigit = [] := by
  have hr : ∀ c ∈ ([] : List Char).head?, c.isDigit = false := fun _ hc => nomatch hc
  have h := takeWhile_paddedDigits_append width n hr
  rwa [List.append_nil] at h

theorem isEmpty_paddedDigits (width n : Nat) : (paddedDigits width n).isEmpty = false :=
  List.isEmpty_eq_false_iff.2 (paddedDigits_ne_nil width n)

/-- As many characters as the width are a written number, if it fits. -/
theorem take_paddedDigits_append {width n : Nat} (hw : 0 < width) (h : n < 10 ^ width)
    (rest : List Char) :
    (paddedDigits width n ++ rest).take width = paddedDigits width n ∧
      (paddedDigits width n ++ rest).drop width = rest := by
  have hl : (paddedDigits width n).length = width := length_paddedDigits hw h
  constructor
  · rw [List.take_append_of_le_length (Nat.le_of_eq hl.symm),
      List.take_of_length_le (Nat.le_of_eq hl)]
  · rw [List.drop_append_of_le_length (Nat.le_of_eq hl.symm),
      List.drop_of_length_le (Nat.le_of_eq hl)]
    rfl

theorem scanUpTo_paddedDigits {width n : Nat} (hw : 0 < width) (h : n < 10 ^ width)
    (rest : List Char) : scanUpTo width (paddedDigits width n ++ rest) = some (n, rest) := by
  obtain ⟨ht, hd⟩ := take_paddedDigits_append hw h rest
  simp only [scanUpTo, ht, (takeWhile_paddedDigits width n).1, isEmpty_paddedDigits,
    digitsValue_paddedDigits, length_paddedDigits hw h, hd]
  rfl

theorem scanExactly_paddedDigits {width n : Nat} (hw : 0 < width) (h : n < 10 ^ width)
    (rest : List Char) : scanExactly width (paddedDigits width n ++ rest) = some (n, rest) := by
  obtain ⟨ht, hd⟩ := take_paddedDigits_append hw h rest
  simp only [scanExactly, ht, (takeWhile_paddedDigits width n).1, length_paddedDigits hw h, hd,
    digitsValue_paddedDigits, if_true]

theorem scanDigits_paddedDigits (width n : Nat) {rest : List Char}
    (hr : ∀ c ∈ rest.head?, c.isDigit = false) :
    scanDigits (paddedDigits width n ++ rest) = some (n, rest) := by
  obtain ⟨ht, hd⟩ := takeWhile_paddedDigits_append width n hr
  simp only [scanDigits, ht, hd, isEmpty_paddedDigits, digitsValue_paddedDigits]
  rfl

/-- Blanks are passed over, and there are none in front of a digit. -/
theorem scanBlanks_paddedDigits (width n : Nat) (rest : List Char) :
    scanBlanks (paddedDigits width n ++ rest) = some ((), paddedDigits width n ++ rest) := by
  obtain ⟨c, cs, hcs, hc⟩ := exists_paddedDigits_eq_cons width n
  rw [hcs]
  simp [scanBlanks, trimStart, not_isBlank_of_isDigit hc]

/-! ## Numbers at the end of a text -/

/-- The longest run at the end of a list starts where a member fails the test. -/
theorem trailingRun_append {α : Type} {p : α → Bool} {xs ys : List α} (hy : ∀ y ∈ ys, p y = true)
    (hx : ∀ x ∈ xs.getLast?, p x = false) : trailingRun p (xs ++ ys) = ys := by
  have hrun : xs.reverse.takeWhile p = [] := by
    cases h : xs.reverse with
    | nil => rfl
    | cons x l =>
      have hlast : xs.getLast? = some x := by rw [← List.head?_reverse, h]; rfl
      rw [List.takeWhile_cons, hx x hlast]
      rfl
  rw [trailingRun, List.reverse_append, List.takeWhile_append_of_pos, hrun, List.append_nil,
    List.reverse_reverse]
  exact fun y h => hy y (List.mem_reverse.1 h)

theorem trailingRun_concat {α : Type} (p : α → Bool) (xs : List α) (x : α) :
    trailingRun p (xs ++ [x]) = if p x then trailingRun p xs ++ [x] else [] :=
  List.rtakeWhile_concat p xs x

/-- The longest end of a list whose members all satisfy a test. -/
structure LongestEnd {α : Type} (p : α → Bool) (xs run : List α) : Prop where
  isSuffix : run <:+ xs
  satisfies : ∀ x ∈ run, p x = true
  longest : ∀ ys, ys <:+ xs → (∀ y ∈ ys, p y = true) → ys.length ≤ run.length

theorem longestEnd_trailingRun {α : Type} (p : α → Bool) (xs : List α) :
    LongestEnd p xs (trailingRun p xs) where
  isSuffix := List.rtakeWhile_suffix p xs
  satisfies _ hx := List.mem_rtakeWhile_imp hx
  longest := by
    rintro ys ⟨front, rfl⟩ hys
    rw [trailingRun, List.reverse_append,
      List.takeWhile_append_of_pos fun y hy => hys y (List.mem_reverse.1 hy)]
    simp

theorem longestEnd_iff {α : Type} {p : α → Bool} {xs run : List α} :
    LongestEnd p xs run ↔ trailingRun p xs = run := by
  constructor
  · intro h
    have hrun := longestEnd_trailingRun p xs
    have hle : (trailingRun p xs).length ≤ run.length := h.longest _ hrun.isSuffix hrun.satisfies
    have hge : run.length ≤ (trailingRun p xs).length := hrun.longest _ h.isSuffix h.satisfies
    exact (List.suffix_of_suffix_length_le hrun.isSuffix h.isSuffix hle).eq_of_length_le hge
  · rintro rfl
    exact longestEnd_trailingRun p xs

theorem isDecimalDigit_of_isDigit {c : Char} (h : c.isDigit = true) : isDecimalDigit c = true := by
  have hc : 48 ≤ c.toNat ∧ c.toNat ≤ 57 := by
    simpa [Char.isDigit, UInt32.le_iff_toNat_le] using h
  refine List.any_eq_true.2 ⟨0x30, by decide, ?_⟩
  simp only [Bool.and_eq_true, decide_eq_true_eq]
  omega

theorem isDigit_of_mem_digits {n : Nat} {c : Char} (h : c ∈ digits n) : c.isDigit = true :=
  Nat.isDigit_of_mem_toDigits (by decide) (by decide) h

theorem natOfDigits_eq_some_iff {cs : List Char} {n : Nat} : natOfDigits cs = some n ↔
    cs ≠ [] ∧ (∀ c ∈ cs, c.isDigit = true) ∧ Nat.ofDigitChars 10 cs 0 = n := by
  rw [natOfDigits, Option.ite_none_right_eq_some, List.all_eq_true, and_assoc, Option.some.injEq]
  rfl

theorem natOfDigits_digits (n : Nat) : natOfDigits (digits n) = some n := by
  have hall : (digits n).all Char.isDigit = true :=
    List.all_eq_true.2 fun _ => isDigit_of_mem_digits
  have hvalue : digitsValue (digits n) = n := by
    simpa [paddedDigits] using digitsValue_paddedDigits 0 n
  rw [natOfDigits, if_pos ⟨Nat.toDigits_ne_nil, hall⟩, hvalue]

theorem digits_injective {n k : Nat} (h : digits n = digits k) : n = k := by
  have hn := natOfDigits_digits n
  rw [h, natOfDigits_digits] at hn
  exact (Option.some.inj hn).symm

/-- A text with a number in the middle tells the number. -/
theorem eq_of_decimal_between {front back : String} {n k : Nat}
    (h : front ++ decimal n ++ back = front ++ decimal k ++ back) : n = k := by
  have hchars := congrArg String.toList h
  simp only [String.toList_append, decimal, String.toList_ofList, List.append_assoc] at hchars
  exact digits_injective (List.append_cancel_right (List.append_cancel_left hchars))

end ChassisAdmin.Text
