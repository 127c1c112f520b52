import Mathlib.Algebra.GroupWithZero.Nat
import ChassisAdmin.Time.Calendar

/-!
# Dates and day numbers

`Date.ofDayNumber` peels the cycles of the calendar off a day number, and
`Date.dayNumber` counts the days of a date.  The main statements are
`Date.dayNumber_ofDayNumber`, the second undoes the first for every integer, and
`Date.isValid_ofDayNumber`, what is peeled off is always a date of the calendar.

A year has a position in each of the cycles.  `daysBeforeYear_position` and
`isLeapYear_position` say what the position tells of the year, and
`exists_position` finds the position of a day.  The month is found by a walk
along the lengths of the months, so `monthAndDay_spec` is proved along that walk
and for all lengths.
-/

namespace ChassisAdmin.Time

/-! ## The year of a day -/

/-- The days before the year at a position: `q` cycles of 400 years, `c` centuries, `g` groups of
four years and `a` years. -/
theorem daysBeforeYear_position {q c g a : Int} (hc : 0 ≤ c ∧ c ≤ 3) (hg : 0 ≤ g ∧ g ≤ 24)
    (ha : 0 ≤ a ∧ a ≤ 3) :
    daysBeforeYear (400 * q + 100 * c + 4 * g + a + 1) =
      146097 * q + 36524 * c + 1461 * g + 365 * a := by
  unfold daysBeforeYear
  omega

/-- The last year of a group is a leap year, unless it is the last of a century that is not the
last of its cycle. -/
theorem isLeapYear_position {q c g a : Int} (hc : 0 ≤ c ∧ c ≤ 3) (hg : 0 ≤ g ∧ g ≤ 24)
    (ha : 0 ≤ a ∧ a ≤ 3) :
    isLeapYear (400 * q + 100 * c + 4 * g + a + 1) = true ↔ a = 3 ∧ (g = 24 → c = 3) := by
  simp only [isLeapYear, Bool.and_eq_true, Bool.or_eq_true, beq_iff_eq, bne_iff_ne]
  omega

/-- Every day has a position.  Its year has a 366th day only where it is a leap year. -/
theorem exists_position (n : Int) :
    ∃ q c g a d, yearAndDay n = (400 * q + 100 * c + 4 * g + a + 1, d) ∧
      (0 ≤ c ∧ c ≤ 3) ∧ (0 ≤ g ∧ g ≤ 24) ∧ (0 ≤ a ∧ a ≤ 3) ∧
      n = 146097 * q + 36524 * c + 1461 * g + 365 * a + d ∧
      0 ≤ d ∧ (d < 365 ∨ d = 365 ∧ a = 3 ∧ (g = 24 → c = 3)) := by
  refine ⟨n / 146097, min (n % 146097 / 36524) 3, _, _, _, rfl, ?_⟩
  generalize hr : n % 146097 = r
  generalize hc : min (r / 36524) 3 = c
  generalize hi : r - 36524 * c = i
  generalize hj : i % 1461 = j
  generalize ha : min (j / 365) 3 = a
  omega

/-- The days before the year and the day of the year make up the count, and the day lies in the
year. -/
theorem yearAndDay_spec (n : Int) :
    daysBeforeYear (yearAndDay n).1 + (yearAndDay n).2 = n ∧ 0 ≤ (yearAndDay n).2 ∧
      (yearAndDay n).2 < if isLeapYear (yearAndDay n).1 then 366 else 365 := by
  obtain ⟨q, c, g, a, d, hy, hc, hg, ha, hn, hd, hlast⟩ := exists_position n
  have hleap : isLeapYear (400 * q + 100 * c + 4 * g + a + 1) = true ↔ a = 3 ∧ (g = 24 → c = 3) :=
    isLeapYear_position hc hg ha
  rw [hy]
  refine ⟨?_, hd, ?_⟩
  · rw [daysBeforeYear_position hc hg ha]
    exact hn.symm
  · rcases hlast with hlt | ⟨rfl, hl⟩
    · split <;> omega
    · rw [if_pos (hleap.2 hl)]
      exact Int.lt_succ 365

/-! ## The month of a day -/

/-- A walk along lengths stops in the length that a day falls in. -/
theorem monthAndDay_spec (lengths : List Nat) (month day : Nat) (h : day < lengths.sum) :
    ∃ i, i < lengths.length ∧ (lengths.take i).sum ≤ day ∧
      day - (lengths.take i).sum < lengths.getD i 0 ∧
      monthAndDay month lengths day = (month + i, day - (lengths.take i).sum + 1) := by
  induction lengths generalizing month day with
  | nil => simp at h
  | cons length lengths ih =>
    unfold monthAndDay
    by_cases hd : day < length
    · exact ⟨0, by simp [hd]⟩
    · rw [List.sum_cons] at h
      obtain ⟨i, hi, hle, hlt, heq⟩ := ih (month + 1) (day - length) (by omega)
      refine ⟨i + 1, by simpa using hi, ?_, ?_, ?_⟩
      · rw [List.take_succ_cons, List.sum_cons]
        omega
      · rw [List.take_succ_cons, List.sum_cons, List.getD_cons_succ]
        omega
      · rw [if_neg hd, heq, List.take_succ_cons, List.sum_cons]
        exact Prod.ext (by dsimp only; omega) (by dsimp only; omega)

theorem sum_monthLengths (leap : Bool) : (monthLengths leap).sum = if leap then 366 else 365 := by
  cases leap <;> rfl

theorem daysInMonth_le (leap : Bool) (month : Nat) : daysInMonth leap month ≤ 31 := by
  have h : ∀ length ∈ monthLengths leap, length ≤ 31 := by cases leap <;> decide
  rw [daysInMonth, List.getD_eq_getElem?_getD]
  cases hl : (monthLengths leap)[month - 1]? with
  | none => exact Nat.zero_le 31
  | some length => exact h length (List.mem_of_getElem? hl)

theorem daysBeforeMonth_eq (leap : Bool) (i : Nat) :
    daysBeforeMonth leap (1 + i) = ((monthLengths leap).take i).sum := by
  rw [daysBeforeMonth, Nat.add_sub_cancel_left, ← List.sum_eq_foldl]

/-! ## Day numbers and back -/

theorem Date.le_of_isValid {d : Date} (h : d.isValid = true) : d.month ≤ 12 ∧ d.day ≤ 31 := by
  have := daysInMonth_le (isLeapYear d.year) d.month
  simp only [Date.isValid, Bool.and_eq_true, decide_eq_true_eq] at h
  omega

/-- What peeling yields: the days of the parts make up the count, and the parts are in range. -/
theorem Date.ofDayNumber_spec (n : Int) :
    (Date.ofDayNumber n).dayNumber = n ∧ (Date.ofDayNumber n).isValid = true := by
  obtain ⟨hsum, hnonneg, hlt⟩ := yearAndDay_spec (n + epochDay)
  generalize hy : yearAndDay (n + epochDay) = y at hsum hnonneg hlt
  have hday : y.2.toNat < (monthLengths (isLeapYear y.1)).sum := by
    rw [sum_monthLengths]
    split at hlt
    · next hleap =>
      rw [if_pos hleap]
      omega
    · next hleap =>
      rw [if_neg hleap]
      omega
  obtain ⟨i, hi, hle, hin, heq⟩ := monthAndDay_spec _ 1 y.2.toNat hday
  have hi12 : i < 12 := hi
  have hd : Date.ofDayNumber n =
      ⟨y.1, 1 + i, y.2.toNat - ((monthLengths (isLeapYear y.1)).take i).sum + 1⟩ := by
    simp only [Date.ofDayNumber, hy, heq]
  rw [hd]
  constructor
  · simp only [Date.dayNumber, daysBeforeMonth_eq]
    omega
  · simp only [Date.isValid, daysInMonth, Nat.add_sub_cancel_left, Bool.and_eq_true,
      decide_eq_true_eq]
    omega

theorem Date.dayNumber_ofDayNumber (n : Int) : (Date.ofDayNumber n).dayNumber = n :=
  (Date.ofDayNumber_spec n).1

theorem Date.isValid_ofDayNumber (n : Int) : (Date.ofDayNumber n).isValid = true :=
  (Date.ofDayNumber_spec n).2

end ChassisAdmin.Time
