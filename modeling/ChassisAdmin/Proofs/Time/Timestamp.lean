import ChassisAdmin.Proofs.Text.Numerals
import ChassisAdmin.Proofs.Time.Calendar
import ChassisAdmin.Time.Timestamp

/-!
# Reading back a timestamp

A timestamp keeps six fraction digits, so what it keeps of an instant is the
instant cut off at whole microseconds, `DateTime.truncated`.  The main statement
is `parseTimestamp_formatTimestamp`: the timestamp of an instant reads back as
that, for every instant of the type, leap seconds and years outside 0 to 9999
included.

The proof follows the text from left to right, one scanner after the other
(`scanNaive_timestampChars`), and then puts the instant together again from its
date and its time of day (`ofCivil?_parts`).
-/

namespace ChassisAdmin.Time

open ChassisAdmin.Text

namespace DateTime

/-- An instant cut off at whole microseconds. -/
def truncated (t : DateTime) : DateTime :=
  { t with
    nano := t.nano / 1000 * 1000
    nano_lt := by
      have := t.nano_lt
      omega }

/-! ## The parts of an instant -/

theorem nanoOfSecond_lt (t : DateTime) : t.nanoOfSecond < nanosPerSecond :=
  Nat.mod_lt _ (by decide)

theorem hour_lt (t : DateTime) : t.hour < 24 := by
  have := t.second_lt
  simp only [hour, secondsPerDay] at *
  omega

theorem minute_lt (t : DateTime) : t.minute < 60 := Nat.mod_lt _ (by decide)

theorem secondOfMinute_le (t : DateTime) : t.secondOfMinute ≤ 60 := by
  have := t.nano_lt
  simp only [secondOfMinute, nanosPerSecond] at *
  omega

/-- The parts that a timestamp shows make up the instant cut off at whole microseconds. -/
theorem ofCivil?_parts (t : DateTime) :
    ofCivil? t.date t.hour t.minute t.secondOfMinute (t.nanoOfSecond / 1000 * 1000) =
      some t.truncated := by
  have hday : t.date.dayNumber = t.day := Date.dayNumber_ofDayNumber t.day
  have hvalid : t.date.isValid = true := Date.isValid_ofDayNumber t.day
  have hnano := t.nano_lt
  have hrange : (firstDay ≤ t.date.dayNumber ∧ t.date.dayNumber ≤ lastDay) ∧ t.hour < 24 ∧
      t.minute < 60 ∧ t.secondOfMinute ≤ 60 ∧ t.nanoOfSecond / 1000 * 1000 < nanosPerSecond := by
    rw [hday]
    exact ⟨t.day_mem, t.hour_lt, t.minute_lt, t.secondOfMinute_le,
      Nat.lt_of_le_of_lt (Nat.div_mul_le_self _ _) t.nanoOfSecond_lt⟩
  simp only [ofCivil?, dif_pos hrange, hvalid, if_true, Option.some.injEq]
  -- Second 60 is shown exactly where the nanoseconds reach into a leap second.
  simp only [truncated, DateTime.mk.injEq, hday, true_and, hour, minute, secondOfMinute,
    nanoOfSecond, nanosPerSecond] at hnano ⊢
  by_cases hleap : t.second % 60 + t.nano / 1000000000 = 60
  · simp only [hleap, if_true]
    omega
  · simp only [hleap, if_false]
    omega

end DateTime

/-! ## Scanning what was written -/

theorem scanField_paddedDigits {n : Nat} (h : n < 10 ^ 2) (rest : List Char) :
    scanField (paddedDigits 2 n ++ rest) = some (n, rest) := by
  rw [scanField, scan_bind (scanBlanks_paddedDigits 2 n rest)]
  exact scanUpTo_paddedDigits (by decide) h rest

/-- A year is read back when no digit follows it. -/
theorem scanYear_yearChars (y : Int) {rest : List Char}
    (hr : ∀ c ∈ rest.head?, c.isDigit = false) :
    scanYear (yearChars y ++ rest) = some (y, rest) := by
  unfold yearChars
  split
  · next h =>
    obtain ⟨c, cs, hcs, hc⟩ := exists_paddedDigits_eq_cons 4 y.toNat
    have hscan : scanUpTo 4 (c :: (cs ++ rest)) = some (y.toNat, rest) := by
      have hwhole : scanUpTo 4 (paddedDigits 4 y.toNat ++ rest) = some (y.toNat, rest) :=
        scanUpTo_paddedDigits (by decide) (by omega) rest
      rwa [hcs] at hwhole
    rw [hcs, List.cons_append]
    unfold scanYear
    split
    · next heq => simp_all
    · next heq => simp_all
    · have hy : (y.toNat : Int) = y := Int.toNat_of_nonneg h.1
      rw [hscan]
      simp only [Option.map_some, hy]
  · next h =>
    have hscan := scanDigits_paddedDigits 4 y.natAbs hr
    by_cases hneg : y < 0
    · have hy : -(y.natAbs : Int) = y := by omega
      rw [if_pos hneg, List.cons_append]
      simp only [scanYear, hscan, Option.map_some, hy]
    · have hy : (y.natAbs : Int) = y := by omega
      rw [if_neg hneg, List.cons_append]
      simp only [scanYear, hscan, Option.map_some, hy]

/-- The first character of a year is a digit or a sign. -/
theorem scanBlanks_yearChars (y : Int) (rest : List Char) :
    scanBlanks (yearChars y ++ rest) = some ((), yearChars y ++ rest) := by
  unfold yearChars
  split
  · exact scanBlanks_paddedDigits 4 y.toNat rest
  · by_cases hneg : y < 0
    · simp [hneg, scanBlanks, trimStart, show isBlank '-' = false by decide]
    · simp [hneg, scanBlanks, trimStart, show isBlank '+' = false by decide]

theorem scanFraction_paddedDigits {n : Nat} (h : n < 10 ^ 6) {rest : List Char}
    (hr : ∀ c ∈ rest.head?, c.isDigit = false) :
    scanFraction ('.' :: (paddedDigits 6 n ++ rest)) = some (n * 1000, rest) := by
  obtain ⟨htw, hdw⟩ := takeWhile_paddedDigits_append 6 n hr
  have hl : (paddedDigits 6 n).length = 6 := length_paddedDigits (by decide) h
  have ht : (paddedDigits 6 n).take 9 = paddedDigits 6 n := List.take_of_length_le (by omega)
  simp only [scanFraction, htw, hdw, isEmpty_paddedDigits, fractionNanos, ht, hl,
    digitsValue_paddedDigits]
  rfl

/-- What a timestamp shows has the number of digits it is shown with, the year apart. -/
theorem parts_lt (t : DateTime) :
    (t.date.month < 10 ^ 2 ∧ t.date.day < 10 ^ 2) ∧
      (t.hour < 10 ^ 2 ∧ t.minute < 10 ^ 2 ∧ t.secondOfMinute < 10 ^ 2) ∧
      t.nanoOfSecond / 1000 < 10 ^ 6 := by
  have hvalid : t.date.isValid = true := Date.isValid_ofDayNumber t.day
  have hdate := Date.le_of_isValid hvalid
  have hh := t.hour_lt
  have hmin := t.minute_lt
  have hs := t.secondOfMinute_le
  have hn := t.nanoOfSecond_lt
  simp only [nanosPerSecond] at hn
  omega

/-- The naive form is read off the front of a text up to the end of the fraction. -/
theorem scanNaive_timestampChars (t : DateTime) {rest : List Char}
    (hr : ∀ c ∈ rest.head?, c.isDigit = false) :
    scanNaive (timestampChars t ++ rest) = some (some t.truncated, rest) := by
  obtain ⟨⟨hmonth, hday⟩, ⟨hhour, hminute, hsecond⟩, hnano⟩ := parts_lt t
  simp only [timestampChars, List.append_assoc, List.cons_append]
  rw [scanNaive, scan_bind (scanBlanks_yearChars _ _), scan_bind (scanYear_yearChars _ (by simp)),
    scan_bind (scanChar_cons _ _), scan_bind (scanField_paddedDigits hmonth _),
    scan_bind (scanChar_cons _ _), scan_bind (scanField_paddedDigits hday _),
    scan_bind (scanChar_cons _ _), scan_bind (scanField_paddedDigits hhour _),
    scan_bind (scanChar_cons _ _), scan_bind (scanField_paddedDigits hminute _),
    scan_bind (scanChar_cons _ _), scan_bind (scanField_paddedDigits hsecond _),
    scan_bind (scanFraction_paddedDigits hnano hr)]
  exact congrArg (fun o => some (o, rest)) t.ofCivil?_parts

/-- The timestamp of an instant reads back as the instant cut off at whole microseconds. -/
theorem parseTimestamp_formatTimestamp (t : DateTime) :
    parseTimestamp (formatTimestamp t) = some t.truncated := by
  have hscan : scanNaive (timestampChars t) = some (some t.truncated, []) := by
    have h := @scanNaive_timestampChars t [] fun _ hc => nomatch hc
    rwa [List.append_nil] at h
  have h : parseNaive (formatTimestamp t) = some t.truncated := by
    simp only [parseNaive, formatTimestamp, String.toList_ofList, wholeText, hscan]
    rfl
  rw [parseTimestamp, h]
  rfl

end ChassisAdmin.Time
