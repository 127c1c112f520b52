import ChassisAdmin.Guard
import ChassisAdmin.Proofs.Time.Reading

/-!
# Timestamps with an offset

Other programs write the start of a transition in the time of a zone, with the
offset of the zone after it.  Such a text is a timestamp and an `Offset`.  The
naive form reads the timestamp at its front and leaves the offset over, so it
rejects the text, and the zoned form reads the instant that the offset moves the
timestamp to.

`spellings_read_alike` says so for every reading in a year that has four digits,
where an offset may well lead into the year before or after them.  The guard
sees an instant and not its spelling, so it cannot tell the two spellings of an
instant apart.
-/

namespace ChassisAdmin.Time

open ChassisAdmin.Text

/-! ## Offsets -/

/-- An offset from universal time, as it is written after a timestamp. -/
structure Offset where
  /-- Whether clocks with the offset are behind universal time. -/
  isBehind : Bool
  /-- The hours. -/
  hours : Nat
  /-- The minutes besides. -/
  minutes : Nat
  /-- Offsets are shorter than a day. -/
  hours_lt : hours < 24
  /-- An hour has sixty minutes. -/
  minutes_lt : minutes < 60
  deriving DecidableEq, Repr

namespace Offset

/-- The sign of an offset. -/
def sign (o : Offset) : Char := if o.isBehind then '-' else '+'

/-- The characters of an offset. -/
def chars (o : Offset) : List Char :=
  o.sign :: (paddedDigits 2 o.hours ++ ':' :: paddedDigits 2 o.minutes)

/-- The text of an offset. -/
def text (o : Offset) : String := String.ofList o.chars

/-- The minutes by which clocks with an offset are ahead of universal time. -/
def ahead (o : Offset) : Int :=
  let length : Int := 60 * o.hours + o.minutes
  if o.isBehind then -length else length

/-- The nanoseconds by which clocks with an offset are ahead of universal time. -/
def nanos (o : Offset) : Int := o.ahead * 60 * nanosPerSecond

theorem ahead_mem (o : Offset) : -1440 < o.ahead ∧ o.ahead < 1440 := by
  have hhours := o.hours_lt
  have hminutes := o.minutes_lt
  simp only [ahead]
  split <;> omega

/-- No digit follows a timestamp that an offset follows. -/
theorem head?_chars (o : Offset) : ∀ c ∈ o.chars.head?, c.isDigit = false := by
  rintro c hc
  cases hc
  unfold sign
  split <;> rfl

theorem scanOffset_chars (o : Offset) : scanOffset o.chars = some (o.ahead, []) := by
  have hhours : scanExactly 2 (paddedDigits 2 o.hours ++ ':' :: paddedDigits 2 o.minutes) =
      some (o.hours, ':' :: paddedDigits 2 o.minutes) :=
    scanExactly_paddedDigits (by decide) (Nat.lt_trans o.hours_lt (by decide)) _
  have hminutes : scanExactly 2 (paddedDigits 2 o.minutes) = some (o.minutes, []) := by
    have hlt : o.minutes < 10 ^ 2 := Nat.lt_trans o.minutes_lt (by decide)
    have h := scanExactly_paddedDigits (by decide) hlt []
    rwa [List.append_nil] at h
  have hrange : o.hours ≤ 23 ∧ o.minutes ≤ 59 :=
    ⟨Nat.le_of_lt_succ o.hours_lt, Nat.le_of_lt_succ o.minutes_lt⟩
  have hread :
      (fun c => c = 'Z' || c = 'z' || c = '+' || c = '-' || c = '\u2212') o.sign = true := by
    unfold sign
    split <;> decide
  have hnotZulu : ¬(o.sign = 'Z' || o.sign = 'z') = true := by
    unfold sign
    split <;> decide
  have hahead : (if o.sign = '+' then (60 * o.hours + o.minutes : Int)
      else -(60 * o.hours + o.minutes)) = o.ahead := by
    unfold sign ahead
    cases o.isBehind <;> rfl
  rw [scanOffset, chars, scan_bind (scanAny_cons hread _), if_neg hnotZulu, scan_bind hhours,
    scan_bind (scanChar_cons _ _), scan_bind hminutes, if_pos hrange, ← hahead]
  rfl

end Offset

/-! ## Moving an instant by an offset -/

/-- An instant in a year that has four digits can be moved by less than a day. -/
theorem DateTime.exists_addMinutes? {t : DateTime} {minutes : Int}
    (hy : 0 ≤ t.date.year ∧ t.date.year ≤ 9999) (hm : -1440 < minutes ∧ minutes < 1440) :
    ∃ u, t.addMinutes? minutes = some u ∧ u.unixSeconds = t.unixSeconds + 60 * minutes ∧
      u.nano = t.nano := by
  obtain ⟨hsum, hnonneg, hlt⟩ := yearAndDay_spec (t.day + epochDay)
  change daysBeforeYear t.date.year + _ = _ at hsum
  have hday : (yearAndDay (t.day + epochDay)).2 < 366 :=
    Int.lt_of_lt_of_le hlt (by split <;> omega)
  have hsecond := t.second_lt
  -- Such years begin within four million days of the epoch, far from both ends of the range.
  have hbegin : -800000 < t.day ∧ t.day < 4000000 := by
    generalize (yearAndDay (t.day + epochDay)).2 = d at hsum hnonneg hday
    simp only [daysBeforeYear, epochDay] at hsum
    omega
  have hrange : firstDay ≤ (t.unixSeconds + 60 * minutes) / secondsPerDay ∧
      (t.unixSeconds + 60 * minutes) / secondsPerDay ≤ lastDay := by
    simp only [firstDay, lastDay, unixSeconds, secondsPerDay] at hsecond ⊢
    omega
  refine ⟨_, dif_pos hrange, ?_, rfl⟩
  simp only [unixSeconds, secondsPerDay]
  omega

/-- The zoned form moves the instant that a timestamp shows by the offset after it. -/
theorem scanZoned_timestampChars {t : DateTime} (hy : 0 ≤ t.date.year ∧ t.date.year ≤ 9999)
    (o : Offset) :
    scanZoned (timestampChars t ++ o.chars) = some (t.truncated.addMinutes? (-o.ahead), []) := by
  obtain ⟨⟨hmonth, hday⟩, ⟨hhour, hminute, hsecond⟩, hnano⟩ := parts_lt t
  have hyear : (t.date.year.toNat : Int) = t.date.year := Int.toNat_of_nonneg hy.1
  have hyear4 : t.date.year.toNat < 10 ^ 4 := by omega
  have hwritten : yearChars t.date.year = paddedDigits 4 t.date.year.toNat := if_pos hy
  simp only [timestampChars, hwritten, List.append_assoc, List.cons_append]
  rw [scanZoned, scan_bind (scanExactly_paddedDigits (by decide) hyear4 _),
    scan_bind (scanChar_cons _ _), scan_bind (scanExactly_paddedDigits (by decide) hmonth _),
    scan_bind (scanChar_cons _ _), scan_bind (scanExactly_paddedDigits (by decide) hday _),
    scan_bind (scanAny_cons (by decide) _),
    scan_bind (scanExactly_paddedDigits (by decide) hhour _), scan_bind (scanChar_cons _ _),
    scan_bind (scanExactly_paddedDigits (by decide) hminute _), scan_bind (scanChar_cons _ _),
    scan_bind (scanExactly_paddedDigits (by decide) hsecond _),
    scan_bind (scanFraction_paddedDigits hnano o.head?_chars), scan_bind o.scanOffset_chars,
    hyear]
  change some ((DateTime.ofCivil? t.date _ _ _ _).bind fun u => u.addMinutes? _, []) = _
  rw [t.ofCivil?_parts]
  rfl

/-! ## Two spellings of an instant -/

theorem toList_formatTimestamp_append (t : DateTime) (o : Offset) :
    (formatTimestamp t ++ o.text).toList = timestampChars t ++ o.chars := by
  rw [String.toList_append, formatTimestamp, Offset.text, String.toList_ofList,
    String.toList_ofList]

theorem parseNaive_formatTimestamp_append (t : DateTime) (o : Offset) :
    parseNaive (formatTimestamp t ++ o.text) = none := by
  rw [parseNaive, toList_formatTimestamp_append, wholeText,
    scanNaive_timestampChars t o.head?_chars]
  rfl

theorem exists_parseZoned {r : Reading} (hy : 0 ≤ r.time.date.year ∧ r.time.date.year ≤ 9999)
    (o : Offset) : ∃ u : Reading, u.nanos = r.stored - o.nanos ∧
      parseZoned (formatTimestamp r.time ++ o.text) = some u.time := by
  have hm : -1440 < -o.ahead ∧ -o.ahead < 1440 := by
    have := o.ahead_mem
    omega
  obtain ⟨u, hu, hsecs, hnano⟩ := DateTime.exists_addMinutes? (t := r.time.truncated) hy hm
  have hlt : u.nano < nanosPerSecond := by
    rw [hnano]
    exact Nat.lt_of_le_of_lt (Nat.div_mul_le_self _ _) r.nano_lt
  refine ⟨⟨u, hlt⟩, ?_, ?_⟩
  · rw [Reading.stored, Reading.nanos, Reading.nanos, ← Reading.unixNanos_truncated]
    simp only [DateTime.unixNanos, hsecs, hnano, Offset.nanos, nanosPerSecond]
    omega
  · rw [parseZoned, toList_formatTimestamp_append, wholeText, scanZoned_timestampChars hy, hu]
    rfl

/-- A timestamp reads back as its instant cut off at whole microseconds.  With an offset after it,
only the zoned form reads it, as the instant less the offset, and the guard decides on both
spellings of that instant alike. -/
theorem spellings_read_alike :
    (∀ t, parseTimestamp (formatTimestamp t) = some t.truncated) ∧
    ∀ (r : Reading) (o : Offset), 0 ≤ r.time.date.year ∧ r.time.date.year ≤ 9999 →
      ∃ u : Reading, u.nanos = r.stored - o.nanos ∧
        parseNaive (formatTimestamp r.time ++ o.text) = none ∧
        parseTimestamp (formatTimestamp r.time ++ o.text) = some u.time ∧
        ∀ (g : Guard) (t : DateTime) (zoned naive : Option Fields), t.truncated = u.time →
          Guard.startTimeOf zoned = some (formatTimestamp r.time ++ o.text) →
          Guard.startTimeOf naive = some (formatTimestamp t) →
          g.timedOutOf zoned = g.timedOutOf naive := by
  refine ⟨parseTimestamp_formatTimestamp, ?_⟩
  intro r o hy
  obtain ⟨u, hu, hzoned⟩ := exists_parseZoned hy o
  have hnaive := parseNaive_formatTimestamp_append r.time o
  have hparse : parseTimestamp (formatTimestamp r.time ++ o.text) = some u.time := by
    rw [parseTimestamp, hnaive, hzoned]
    rfl
  refine ⟨u, hu, hnaive, hparse, ?_⟩
  intro g t zoned naive ht hstart hstart'
  rw [Guard.timedOutOf, Guard.timedOutOf, hstart, hstart', Option.bind_some, Option.bind_some,
    hparse, parseTimestamp_formatTimestamp, ht]

/-- Half an hour after midnight on the first of March 2024, with a fraction of nine digits. -/
def afterLeapDay : Reading :=
  ⟨⟨19783, 1800, 123456789, by decide, by decide, by decide⟩, by decide⟩

/-- The offset of clocks that are an hour ahead. -/
def oneHourAhead : Offset := ⟨false, 1, 0, by decide, by decide⟩

/-- The offset leads back into the last day of February. -/
theorem spellings_read_alike_leapDay :
    (0 ≤ afterLeapDay.time.date.year ∧ afterLeapDay.time.date.year ≤ 9999) ∧
    ∃ u : Reading, u.time.date = ⟨2024, 2, 29⟩ ∧
      parseTimestamp (formatTimestamp afterLeapDay.time ++ oneHourAhead.text) = some u.time := by
  have hy : 0 ≤ afterLeapDay.time.date.year ∧ afterLeapDay.time.date.year ≤ 9999 := by decide
  obtain ⟨-, hspelled⟩ := spellings_read_alike
  obtain ⟨u, hu, -, hparse, -⟩ := hspelled afterLeapDay oneHourAhead hy
  have hnanos : u.nanos = 1709249400123456000 := hu.trans (by decide)
  have hday : u.time.day = 19782 := by
    have hsecond := u.time.second_lt
    have hnano := u.nano_lt
    simp only [Reading.nanos, DateTime.unixNanos, DateTime.unixSeconds, nanosPerSecond,
      secondsPerDay] at hnanos hsecond hnano
    omega
  refine ⟨hy, u, ?_, hparse⟩
  rw [DateTime.date, hday]
  decide

end ChassisAdmin.Time
