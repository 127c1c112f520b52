import ChassisAdmin.Proofs.Time.Timestamp

/-!
# Readings of the clock

Outside a leap second an instant is a number of nanoseconds, and the time
between two of them is a difference.  A `Reading` is such an instant.  A store
keeps a reading at the precision of timestamps, `Reading.stored`, and
`Reading.since_truncated` says that the age of a stored start is the difference
of the two numbers.
-/

namespace ChassisAdmin.Time

/-- No whole second lies in a leap second. -/
theorem DateTime.nano_ofUnix_lt (secs : Int) : (DateTime.ofUnix secs).nano < nanosPerSecond := by
  unfold DateTime.ofUnix DateTime.ofUnixNanos?
  simp only
  split
  · simp only [Option.getD_some, nanosPerSecond]
    omega
  · decide

/-- A reading of the clock outside a leap second. -/
structure Reading where
  /-- The instant. -/
  time : DateTime
  /-- The instant lies in no leap second. -/
  nano_lt : time.nano < nanosPerSecond

namespace Reading

/-- The nanoseconds from 1970-01-01T00:00:00 to a reading. -/
def nanos (r : Reading) : Int := r.time.unixNanos

/-- The nanoseconds of a reading as a store keeps it, cut off at whole microseconds. -/
def stored (r : Reading) : Int := r.nanos - r.nanos % 1000

/-- The reading a number of seconds after 1970-01-01T00:00:00. -/
def ofUnix (secs : Int) : Reading := ⟨DateTime.ofUnix secs, DateTime.nano_ofUnix_lt secs⟩

/-- Whether a change that started at one reading is abandoned at another: more than 240 seconds
lie between the two. -/
def Overdue (start now : Reading) : Prop := 240 * 1000000000 < now.nanos - start.stored

instance (start now : Reading) : Decidable (Overdue start now) :=
  inferInstanceAs (Decidable (_ < _))

theorem unixNanos_truncated (t : DateTime) :
    t.truncated.unixNanos = t.unixNanos - t.unixNanos % 1000 := by
  simp only [DateTime.unixNanos, DateTime.unixSeconds, DateTime.truncated, nanosPerSecond]
  omega

theorem since_truncated (now start : Reading) :
    now.time.since start.time.truncated = now.nanos - start.stored := by
  have hn := now.nano_lt
  have hs : start.time.truncated.nano < nanosPerSecond :=
    Nat.lt_of_le_of_lt (Nat.div_mul_le_self _ _) start.nano_lt
  rw [stored, nanos, nanos, ← unixNanos_truncated]
  -- Neither of the two lies in a leap second, so no second is counted besides.
  simp only [DateTime.since, Nat.not_le.2 hn, Nat.not_le.2 hs, and_false, if_false,
    DateTime.unixNanos, DateTime.unixSeconds, nanosPerSecond, secondsPerDay]
  omega

end Reading

end ChassisAdmin.Time
