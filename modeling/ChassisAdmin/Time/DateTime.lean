import ChassisAdmin.Time.Calendar

/-!
# Instants

An instant of universal time: a day, a second of the day and nanoseconds.  The
last second of a minute may run on for a second more, a leap second, which is
kept as nanoseconds from 10⁹ on.  Days reach from -262143-01-01 to
+262142-12-31.  All bounds are part of the type.

No other second runs on.  No clock tells of such an instant, but setting the
nanoseconds of one by hand to 10⁹ or more could make it.  It would be written as
the second that follows, and be read back as that.  The type leaves it out.

`DateTime.since` measures the time from one instant to another in nanoseconds.
Leap seconds are not on record, so it counts one only where one of the two
instants lies in it.  A start inside a leap second that the end has passed later
in the day counts in full, and so does an end inside a leap second that the
start had not yet reached in its own day.
-/

namespace ChassisAdmin.Time

/-- The nanoseconds of a second. -/
abbrev nanosPerSecond : Nat := 1000000000

/-- The seconds of a day. -/
abbrev secondsPerDay : Nat := 86400

/-- The first day an instant can lie in, -262143-01-01. -/
abbrev firstDay : Int := -96465292

/-- The last day an instant can lie in, +262142-12-31. -/
abbrev lastDay : Int := 95026236

/-- An instant of universal time. -/
structure DateTime where
  /-- The day, counted from 1970-01-01. -/
  day : Int
  /-- The second of the day. -/
  second : Nat
  /-- The nanoseconds after that second; 10⁹ and more lie in a leap second. -/
  nano : Nat
  /-- The day lies in range. -/
  day_mem : firstDay ≤ day ∧ day ≤ lastDay
  /-- The second lies in the day. -/
  second_lt : second < secondsPerDay
  /-- Only the last second of a minute can be a leap second. -/
  nano_lt : nano < nanosPerSecond ∨ nano < 2 * nanosPerSecond ∧ second % 60 = 59
  deriving DecidableEq, Repr

namespace DateTime

/-- The instant 1970-01-01T00:00:00. -/
def epoch : DateTime := ⟨0, 0, 0, by decide, by decide, by decide⟩

/-- The seconds from 1970-01-01T00:00:00 to an instant, leap seconds not counted. -/
def unixSeconds (t : DateTime) : Int := t.day * secondsPerDay + t.second

/-- The nanoseconds from 1970-01-01T00:00:00 to an instant. -/
def unixNanos (t : DateTime) : Int := t.unixSeconds * nanosPerSecond + t.nano

/-- The instant a number of nanoseconds after 1970-01-01T00:00:00, if it lies in range. -/
def ofUnixNanos? (n : Int) : Option DateTime :=
  let secs := n / nanosPerSecond
  if h : firstDay ≤ secs / secondsPerDay ∧ secs / secondsPerDay ≤ lastDay then
    some
      { day := secs / secondsPerDay
        second := (secs % secondsPerDay).toNat
        nano := (n % nanosPerSecond).toNat
        day_mem := h
        second_lt := by simp only [secondsPerDay]; omega
        nano_lt := by simp only [nanosPerSecond]; omega }
  else none

/-- The instant a number of seconds after 1970-01-01T00:00:00; the epoch when that lies out of
range. -/
def ofUnix (secs : Int) : DateTime := (ofUnixNanos? (secs * nanosPerSecond)).getD epoch

/-- The instant of a date and a time of day, if there is one.  Second 60 is a leap second. -/
def ofCivil? (date : Date) (hour minute second nano : Nat) : Option DateTime :=
  let day := date.dayNumber
  let leap := if second = 60 then 1 else 0
  if h : (firstDay ≤ day ∧ day ≤ lastDay) ∧ hour < 24 ∧ minute < 60 ∧ second ≤ 60 ∧
      nano < nanosPerSecond then
    if date.isValid then
      some
        { day := day
          second := 3600 * hour + 60 * minute + (second - leap)
          nano := nano + leap * nanosPerSecond
          day_mem := h.1
          second_lt := by
            simp only [secondsPerDay, leap] at h ⊢
            split <;> omega
          nano_lt := by
            simp only [nanosPerSecond, leap] at h ⊢
            split <;> omega }
    else none
  else none

/-- The date of an instant. -/
def date (t : DateTime) : Date := Date.ofDayNumber t.day

/-- The hour of an instant. -/
def hour (t : DateTime) : Nat := t.second / 3600

/-- The minute of an instant. -/
def minute (t : DateTime) : Nat := t.second / 60 % 60

/-- The second of an instant within its minute; 60 in a leap second. -/
def secondOfMinute (t : DateTime) : Nat := t.second % 60 + t.nano / nanosPerSecond

/-- The nanoseconds after the second of an instant, below 10⁹ also in a leap second. -/
def nanoOfSecond (t : DateTime) : Nat := t.nano % nanosPerSecond

/-- The instant a number of minutes later, or earlier when it is negative. -/
def addMinutes? (t : DateTime) (minutes : Int) : Option DateTime :=
  let secs := t.unixSeconds + 60 * minutes
  if h : firstDay ≤ secs / secondsPerDay ∧ secs / secondsPerDay ≤ lastDay then
    some
      { day := secs / secondsPerDay
        second := (secs % secondsPerDay).toNat
        nano := t.nano
        day_mem := h
        second_lt := by simp only [secondsPerDay]; omega
        nano_lt := by
          have hn := t.nano_lt
          have hs : secs = t.day * 86400 + t.second + 60 * minutes := rfl
          simp only [nanosPerSecond, secondsPerDay] at hn ⊢
          omega }
  else none

/-- The nanoseconds from one instant to a later one, negative when it is earlier. -/
def since (later earlier : DateTime) : Int :=
  let leap : Int :=
    if earlier.second < later.second ∧ nanosPerSecond ≤ earlier.nano then 1
    else if later.second < earlier.second ∧ nanosPerSecond ≤ later.nano then -1
    else 0
  ((later.day - earlier.day) * secondsPerDay + (later.second - earlier.second : Int) + leap) *
    nanosPerSecond + ((later.nano : Int) - earlier.nano)

end DateTime

end ChassisAdmin.Time
