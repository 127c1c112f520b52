import ChassisAdmin.Proofs.Fabric.Plan
import Mathlib.Algebra.Order.Floor.Div

/-!
# How long a status is waited for

A status is read, and after every reading that does not decide there is a pause of
one second.  The time allowed is looked at after a pause, so the readings are as
many as the seconds of that time, begun seconds counted as whole ones, and one if
there is no time at all (`mostReadings`).  None is made when the time is over.

The readings take no time here and have any outcomes: a record with any status, no
record, or an error (`Watch.answer`).  After some readings that said another
status, with time left, the wait goes on as one that has lasted a second for each
of them (`awaiting_after`, by induction on their number).  So the first reading
that says no other status decides, and without one the wait is late
(`ends_of_readings`).
-/

namespace ChassisAdmin.Fabric

/-- What has gone by since a wait began. -/
structure Watch where
  /-- The readings of the status that were made. -/
  readings : Nat
  /-- The nanoseconds that have passed. -/
  elapsed : Nat
  deriving DecidableEq, Repr

/-- The records of a module as they are read in turn.  A reading may fail. -/
abbrev Readings : Type := Nat → Except SystemError (Option Fields)

/-- Answers the readings of a record in turn.  A reading takes no time, and a pause takes the time
that was asked for.  Nothing else is answered. -/
def Watch.answer (name : String) (records : Readings) : (q : Request) → Watch → Answer q × Watch
  | .observed (.getEntry table key), w =>
      if table = Module.table ∧ key = name then
        (records w.readings, { w with readings := w.readings + 1 })
      else (.error (.internal "not answered"), w)
  | .pause time, w => ((), { w with elapsed := w.elapsed + time })
  | .observed (.setEntry ..), w | .observed (.keys ..), w | .observed (.hget ..), w
  | .observed (.delete ..), w | .config _, w | .chassisState _, w | .service _, w =>
      (.error (.internal "not answered"), w)

/-- The greatest number of readings in the time allowed. -/
def mostReadings (pollTimeout : Nat) : Nat := max 1 (pollTimeout ⌈/⌉ pollInterval)

theorem mostReadings_pos (pollTimeout : Nat) : 0 < mostReadings pollTimeout :=
  Nat.le_max_left _ _

/-- A further reading is made while a second for each of those before leaves time. -/
theorem lt_mostReadings_iff {pollTimeout n : Nat} :
    n + 1 < mostReadings pollTimeout ↔ (n + 1) * pollInterval < pollTimeout := by
  have hceil : n + 1 < pollTimeout ⌈/⌉ pollInterval ↔ pollInterval * (n + 1) < pollTimeout := by
    rw [← not_le, ceilDiv_le_iff_le_mul pollInterval_pos, not_le]
  rw [mostReadings, lt_max_iff, hceil, Nat.mul_comm]
  exact or_iff_right (by omega)

example : mostReadings pollTimeout = 10 ∧ mostReadings 0 = 1 ∧ mostReadings (seconds 2) = 2 ∧
    mostReadings (seconds 2 + 1) = 3 := by decide

/-! ## One reading -/

section Awaiting

variable (r : Reconciler) (name : String) (expected : AdminStatus) (records : Readings)

/-- The status that a reading says. -/
def statusAt (i : Nat) : Except SystemError AdminStatus := (records i).map r.guard.adminStatusOf

/-- The reading says another status than the expected one. -/
def SaysOther (i : Nat) : Prop := ∃ status, statusAt r records i = .ok status ∧ status ≠ expected

/-- A wait that has begun. -/
abbrev awaiting (elapsed : Nat) (w : Watch) : Except ChassisError Bool × Watch :=
  (awaitStatus r name expected elapsed).runWith (Watch.answer name records) w

variable {r name expected records} {w : Watch} {elapsed n : Nat}

theorem runWith_reading (r : Reconciler) (name : String) (records : Readings) (w : Watch) :
    (onObserved (r.guard.currentAdminStatus name)).runWith (Watch.answer name records) w =
      ((statusAt r records w.readings).mapError .system,
        { w with readings := w.readings + 1 }) := by
  have hanswer : Watch.answer name records (.observed (.getEntry Module.table name)) w =
      (records w.readings, { w with readings := w.readings + 1 }) := if_pos ⟨rfl, rfl⟩
  rw [onObserved_currentAdminStatus]
  exact congrArg (fun x : Except SystemError (Option Fields) × Watch =>
    ((x.1.map r.guard.adminStatusOf).mapError ChassisError.system, x.2)) hanswer

theorem awaiting_of_error {e : SystemError} (h : statusAt r records w.readings = .error e) :
    awaiting r name expected records elapsed w =
      (.error (.system e), { w with readings := w.readings + 1 }) := by
  have hread := runWith_reading r name records w
  rw [h] at hread
  unfold awaiting
  rw [awaitStatus]
  exact Attempt.runWith_bind_error hread _

theorem awaiting_of_expected (h : statusAt r records w.readings = .ok expected) :
    awaiting r name expected records elapsed w =
      (.ok false, { w with readings := w.readings + 1 }) := by
  have hread := runWith_reading r name records w
  rw [h] at hread
  unfold awaiting
  rw [awaitStatus, Attempt.runWith_bind_ok hread, if_pos rfl]
  rfl

/-- After any other reading there is a pause.  Then the time is over, or the wait goes on. -/
theorem awaiting_of_saysOther (h : SaysOther r expected records w.readings) :
    awaiting r name expected records elapsed w =
      if r.pollTimeout ≤ elapsed + pollInterval then
        (.ok true, ⟨w.readings + 1, w.elapsed + pollInterval⟩)
      else awaiting r name expected records (elapsed + pollInterval)
        ⟨w.readings + 1, w.elapsed + pollInterval⟩ := by
  obtain ⟨status, hstatus, hne⟩ := h
  have hread := runWith_reading r name records w
  rw [hstatus] at hread
  have hpause : (pause pollInterval).runWith (Watch.answer name records)
      { w with readings := w.readings + 1 } =
        (.ok (), ⟨w.readings + 1, w.elapsed + pollInterval⟩) := rfl
  unfold awaiting
  rw [awaitStatus, Attempt.runWith_bind_ok hread, if_neg hne, Attempt.runWith_bind_ok hpause]
  split
  · rfl
  · rfl

/-! ## All readings -/

/-- After some readings that said another status, with time left, the wait is one that has lasted a
second for each of them. -/
theorem awaiting_after (hn : n < mostReadings r.pollTimeout)
    (h : ∀ i < n, SaysOther r expected records i) :
    awaiting r name expected records 0 ⟨0, 0⟩ =
      awaiting r name expected records (n * pollInterval) ⟨n, n * pollInterval⟩ := by
  induction n with
  | zero => rw [Nat.zero_mul]
  | succ n ih =>
    have hleft : (n + 1) * pollInterval < r.pollTimeout := lt_mostReadings_iff.1 hn
    have hlast : SaysOther r expected records n := h n n.lt_succ_self
    rw [ih (Nat.lt_of_succ_lt hn) fun i hi => h i (Nat.lt_succ_of_lt hi),
      awaiting_of_saysOther hlast, ← Nat.succ_mul, if_neg (Nat.not_le.2 hleft)]

/-- The first reading that says no other status ends the wait. -/
theorem awaiting_of_first (hn : n < mostReadings r.pollTimeout)
    (h : ∀ i < n, SaysOther r expected records i) :
    (statusAt r records n = .ok expected →
      awaiting r name expected records 0 ⟨0, 0⟩ = (.ok false, ⟨n + 1, n * pollInterval⟩)) ∧
    ∀ e, statusAt r records n = .error e →
      awaiting r name expected records 0 ⟨0, 0⟩ =
        (.error (.system e), ⟨n + 1, n * pollInterval⟩) := by
  rw [awaiting_after hn h]
  constructor
  · intro hexpected
    exact awaiting_of_expected hexpected
  · intro e he
    exact awaiting_of_error (w := ⟨n, n * pollInterval⟩) he

/-- The last reading is followed by a pause, at the end of which the time is over. -/
theorem awaiting_of_late (h : ∀ i < mostReadings r.pollTimeout, SaysOther r expected records i) :
    awaiting r name expected records 0 ⟨0, 0⟩ =
      (.ok true, ⟨mostReadings r.pollTimeout, mostReadings r.pollTimeout * pollInterval⟩) := by
  obtain ⟨n, hn⟩ := Nat.exists_eq_succ_of_ne_zero (mostReadings_pos r.pollTimeout).ne'
  have hover : r.pollTimeout ≤ (n + 1) * pollInterval := by
    refine Nat.not_lt.1 fun hlt => ?_
    have := lt_mostReadings_iff.2 hlt
    omega
  have hlt : n < mostReadings r.pollTimeout := hn ▸ n.lt_succ_self
  rw [awaiting_after hlt fun i hi => h i (hi.trans hlt), awaiting_of_saysOther (h n hlt),
    ← Nat.succ_mul, if_pos hover, hn]

theorem readings_awaiting_le :
    (awaiting r name expected records 0 ⟨0, 0⟩).2.readings ≤ mostReadings r.pollTimeout := by
  by_cases hall : ∀ i < mostReadings r.pollTimeout, SaysOther r expected records i
  · rw [awaiting_of_late hall]
  · -- Not every reading says another status, and the first that does not ends the wait.
    classical
    have hex : ∃ i, i < mostReadings r.pollTimeout ∧ ¬SaysOther r expected records i := by
      simpa only [not_forall, exists_prop] using hall
    obtain ⟨hi, hsays⟩ := Nat.find_spec hex
    have hbefore : ∀ j < Nat.find hex, SaysOther r expected records j := fun j hj =>
      not_not.1 fun hj' => Nat.find_min hex hj ⟨hj.trans hi, hj'⟩
    obtain ⟨hexpected, herror⟩ := awaiting_of_first hi hbefore
    cases hstatus : statusAt r records (Nat.find hex) with
    | error e => exact (herror e hstatus).symm ▸ hi
    | ok status =>
      have heq : status = expected := not_not.1 fun hne => hsays ⟨status, hstatus, hne⟩
      exact (hexpected (heq ▸ hstatus)).symm ▸ hi

end Awaiting

/-- The reconciler of a standard chassis where so much time is allowed. -/
def allowing (pollTimeout : Nat) : Reconciler := ⟨⟨false, Time.DateTime.ofUnix 0⟩, pollTimeout⟩

/-- A card that is up at two readings, without a record at first, and then down. -/
def thirdDown : Readings
  | 0 => .ok none
  | 1 => .ok (some [(Module.adminStatusField, "up")])
  | _ => .ok (some [(Module.adminStatusField, "down")])

end ChassisAdmin.Fabric
