import Sluice.Time.Calendar

/-!
# Dates of days

Every day has a date of the calendar, and the date is counted back to that day.
-/

set_option autoImplicit false

namespace Sluice

namespace Calendar

/-! ## Years of a cycle -/

def daysBeforeYear (year : Int) : Int := 365 * year + year / 4 - year / 100

def yearOfCycleDay (day : Int) : Int := (day - day / 1460 + day / 36524 - day / 146096) / 365

/-- Where in a cycle a day falls: its century, the period of four years of 1461 days each, which
count the days that the centuries have lost, and the day of that period.  The last day of the cycle
is left out: a fifth century would begin with it. -/
structure InPeriod (day century period rest : Int) : Prop where
  day_eq : day = 1461 * period + rest - century
  century_range : 0 ≤ century ∧ century ≤ 3
  period_range : 25 * century ≤ period ∧ period ≤ 25 * century + 24
  rest_range : 0 ≤ rest ∧ rest ≤ 1460
  within : 36524 * century ≤ day ∧ day < 36524 * (century + 1)

theorem exists_inPeriod {day : Int} (nonneg : 0 ≤ day) (short : day < 146096) :
    ∃ century period rest, InPeriod day century period rest := by
  refine ⟨day / 36524, (day + day / 36524) / 1461, (day + day / 36524) % 1461, ?_, ?_, ?_, ?_, ?_⟩
    <;> omega

variable {day century period rest : Int}

theorem InPeriod.year_eq (falls : InPeriod day century period rest) :
    yearOfCycleDay day = 4 * period + min (rest / 365) 3 := by
  obtain ⟨day_eq, centuries, periods, rests, within⟩ := falls
  have notLast : day / 146096 = 0 := by omega
  have century_eq : day / 36524 = century := by omega
  have period_eq : day / 1460 = period ∨ day / 1460 = period + 1 ∧ 1360 ≤ rest := by omega
  rw [yearOfCycleDay, notLast, century_eq]
  omega

theorem isLeapYear_iff (year : Int) :
    isLeapYear year = true ↔ year % 4 = 0 ∧ (year % 100 ≠ 0 ∨ year % 400 = 0) := decide_eq_true_iff

/-- A day is in its year: not before it begins, and not after its 365th day, or the leap day, which
stands at the end of those years that a leap year follows. -/
theorem InPeriod.day_bounds (falls : InPeriod day century period rest) :
    daysBeforeYear (yearOfCycleDay day) ≤ day ∧ day ≤ daysBeforeYear (yearOfCycleDay day) + 365 ∧
      (day = daysBeforeYear (yearOfCycleDay day) + 365 →
        isLeapYear (yearOfCycleDay day + 1) = true) := by
  have year := falls.year_eq
  obtain ⟨day_eq, centuries, periods, rests, within⟩ := falls
  have century_eq : yearOfCycleDay day / 100 = century := by omega
  have period_eq : yearOfCycleDay day / 4 = period := by omega
  rw [isLeapYear_iff, daysBeforeYear, century_eq, period_eq]
  omega

section Cycle

variable (nonneg : 0 ≤ day) (short : day < cycleDays)
include nonneg short

theorem yearOfCycleDay_range : 0 ≤ yearOfCycleDay day ∧ yearOfCycleDay day ≤ 399 := by
  rw [cycleDays] at short
  rw [yearOfCycleDay]
  omega

theorem yearOfCycleDay_bounds :
    daysBeforeYear (yearOfCycleDay day) ≤ day ∧ day ≤ daysBeforeYear (yearOfCycleDay day) + 365 ∧
      (day = daysBeforeYear (yearOfCycleDay day) + 365 →
        isLeapYear (yearOfCycleDay day + 1) = true) := by
  rw [cycleDays] at short
  by_cases last : day = 146096
  · subst last
    decide
  · obtain ⟨_, _, _, falls⟩ := exists_inPeriod nonneg (by omega : day < 146096)
    exact falls.day_bounds

end Cycle

/-! ## Dates of a year from March -/

/-- The date of a day of a year that begins in March. -/
def ofMarchYear (year dayOfYear : Int) : CivilDate :=
  let marchMonth := (5 * dayOfYear + 2) / 153
  let day := dayOfYear - (153 * marchMonth + 2) / 5 + 1
  let month := if marchMonth < 10 then marchMonth + 3 else marchMonth - 9
  ⟨year + (if month ≤ 2 then 1 else 0), month.toNat, day.toNat⟩

structure Valid (date : CivilDate) : Prop where
  month : 1 ≤ date.month ∧ date.month ≤ 12
  day : 1 ≤ date.day ∧ date.day ≤ daysInMonth date.year date.month

/-- The dates of a year from March are those from March to December, and those of January and
February in the next year of the calendar. -/
theorem ofMarchYear_cases (year : Int) {dayOfYear : Int}
    (range : 0 ≤ dayOfYear ∧ dayOfYear ≤ 365) :
    ∃ marchMonth : Int, (153 * marchMonth ≤ 5 * dayOfYear + 2 ∧
        5 * dayOfYear + 2 < 153 * marchMonth + 153) ∧
      (0 ≤ marchMonth ∧ marchMonth < 10 ∧ ofMarchYear year dayOfYear =
          ⟨year, (marchMonth + 3).toNat, (dayOfYear - (153 * marchMonth + 2) / 5 + 1).toNat⟩ ∨
        10 ≤ marchMonth ∧ marchMonth ≤ 11 ∧ ofMarchYear year dayOfYear =
          ⟨year + 1, (marchMonth - 9).toNat,
            (dayOfYear - (153 * marchMonth + 2) / 5 + 1).toNat⟩) := by
  refine ⟨(5 * dayOfYear + 2) / 153, by omega, ?_⟩
  rw [ofMarchYear]
  by_cases early : (5 * dayOfYear + 2) / 153 < 10
  · refine .inl ⟨by omega, early, ?_⟩
    have late : ¬ (5 * dayOfYear + 2) / 153 + 3 ≤ 2 := by omega
    simp only [if_pos early, if_neg late, Int.add_zero]
  · refine .inr ⟨by omega, by omega, ?_⟩
    have first : (5 * dayOfYear + 2) / 153 - 9 ≤ 2 := by omega
    simp only [if_neg early, if_pos first]

theorem ofMarchYear_valid {year dayOfYear : Int} (range : 0 ≤ dayOfYear ∧ dayOfYear ≤ 365)
    (leap : dayOfYear = 365 → isLeapYear (year + 1) = true) :
    Valid (ofMarchYear year dayOfYear) := by
  obtain ⟨marchMonth, within, ⟨nonneg, early, date_eq⟩ | ⟨late, last, date_eq⟩⟩ :=
    ofMarchYear_cases year range
  · rw [date_eq]
    constructor
    · dsimp only
      omega
    · dsimp only [daysInMonth]
      split
      · omega
      · split <;> omega
  · rw [date_eq]
    constructor
    · dsimp only
      omega
    · dsimp only [daysInMonth]
      split
      · split
        · omega
        · next common =>
            have short : dayOfYear ≠ 365 := fun leapDay => common (leap leapDay)
            omega
      · split <;> omega

theorem dayNumber_ofMarchYear {year dayOfYear : Int} (range : 0 ≤ dayOfYear ∧ dayOfYear ≤ 365) :
    dayNumber (ofMarchYear year dayOfYear) =
      year / 400 * cycleDays + daysBeforeYear (year % 400) + dayOfYear - epochShift := by
  obtain ⟨marchMonth, within, ⟨nonneg, early, date_eq⟩ | ⟨late, last, date_eq⟩⟩ :=
    ofMarchYear_cases year range
  · have later : ¬ (marchMonth + 3).toNat ≤ 2 := by omega
    simp only [date_eq, dayNumber, daysBeforeYear, dayOfMarchYear, cycleDays, if_neg later]
    omega
  · have first : (marchMonth - 9).toNat ≤ 2 := by omega
    simp only [date_eq, dayNumber, daysBeforeYear, dayOfMarchYear, cycleDays, if_pos first,
      Int.add_sub_cancel]
    omega

theorem dateOfDay_eq (number : Int) :
    dateOfDay number =
      ofMarchYear (yearOfCycleDay ((number + epochShift) % cycleDays) +
          (number + epochShift) / cycleDays * 400)
        ((number + epochShift) % cycleDays -
          daysBeforeYear (yearOfCycleDay ((number + epochShift) % cycleDays))) := by
  rfl

/-! ## Dates of days -/

theorem daysInMonth_le (year : Int) (month : Nat) : daysInMonth year month ≤ 31 := by
  rw [daysInMonth]
  split
  · split <;> decide
  · split <;> decide

theorem isLeapYear_add_cycles (year cycles : Int) :
    isLeapYear (year + cycles * 400) = isLeapYear year := by
  rw [Bool.eq_iff_iff, isLeapYear_iff, isLeapYear_iff]
  omega

/-- A day counted from the first of March of year zero. -/
theorem dateOfDay_spec (number : Int) :
    ∃ year dayOfYear : Int, dateOfDay number = ofMarchYear year dayOfYear ∧
      (0 ≤ dayOfYear ∧ dayOfYear ≤ 365) ∧
      (dayOfYear = 365 → isLeapYear (year + 1) = true) ∧
      year / 400 * cycleDays + daysBeforeYear (year % 400) + dayOfYear = number + epochShift := by
  have positive : (0 : Int) < cycleDays := by decide
  have nonneg := Int.emod_nonneg (number + epochShift) (Int.ne_of_gt positive)
  have short := Int.emod_lt_of_pos (number + epochShift) positive
  have whole := Int.emod_add_mul_ediv (number + epochShift) cycleDays
  obtain ⟨begun, ended, leap⟩ := yearOfCycleDay_bounds nonneg short
  obtain ⟨first, last⟩ := yearOfCycleDay_range nonneg short
  rw [dateOfDay_eq]
  generalize (number + epochShift) % cycleDays = day at *
  generalize (number + epochShift) / cycleDays = cycle at *
  refine ⟨_, _, rfl, by omega, fun leapDay => ?_, ?_⟩
  · rw [Int.add_right_comm, isLeapYear_add_cycles]
    exact leap (by omega)
  · have sameCycle : (yearOfCycleDay day + cycle * 400) / 400 = cycle := by omega
    have sameYear : (yearOfCycleDay day + cycle * 400) % 400 = yearOfCycleDay day := by omega
    rw [sameCycle, sameYear, ← whole, Int.mul_comm]
    omega

theorem dateOfDay_valid (number : Int) : Valid (dateOfDay number) := by
  obtain ⟨year, dayOfYear, date_eq, range, leap, _⟩ := dateOfDay_spec number
  rw [date_eq]
  exact ofMarchYear_valid range leap

/-- The date of a day is counted back to it. -/
theorem dayNumber_dateOfDay (number : Int) : dayNumber (dateOfDay number) = number := by
  obtain ⟨year, dayOfYear, date_eq, range, _, counted⟩ := dateOfDay_spec number
  rw [date_eq, dayNumber_ofMarchYear range, counted]
  omega

theorem dayOf?_dateOfDay {number : Int} (within : minYear ≤ (dateOfDay number).year ∧
    (dateOfDay number).year ≤ maxYear) :
    dayOf? (dateOfDay number).year (dateOfDay number).month (dateOfDay number).day =
      some number := by
  obtain ⟨month, day⟩ := dateOfDay_valid number
  rw [dayOf?, if_pos ⟨within.1, within.2, month.1, month.2, day.1, day.2⟩]
  exact congrArg some (dayNumber_dateOfDay number)

/-! ## Days of dates -/

theorem firstDayOfYear_eq (year : Int) : firstDayOfYear year =
    365 * year + (year - 1) / 4 - (year - 1) / 100 + (year - 1) / 400 - 719527 := by
  rw [firstDayOfYear, dayNumber]
  dsimp only [dayOfMarchYear, epochShift, cycleDays]
  rw [if_pos (by decide), if_pos (by decide)]
  omega

theorem firstDayOfYear_mono {year other : Int} (before : year ≤ other) :
    firstDayOfYear year ≤ firstDayOfYear other := by
  rw [firstDayOfYear_eq, firstDayOfYear_eq]
  omega

theorem dayNumber_within_year {date : CivilDate} (valid : Valid date) :
    firstDayOfYear date.year ≤ dayNumber date ∧
      dayNumber date < firstDayOfYear (date.year + 1) := by
  have months := valid.month
  have first := valid.day.1
  have last := Nat.le_trans valid.day.2 (daysInMonth_le _ _)
  rw [firstDayOfYear_eq, firstDayOfYear_eq, dayNumber]
  dsimp only [dayOfMarchYear, epochShift, cycleDays]
  split
  · omega
  · omega

/-- The day of a date is in the year of that date only. -/
theorem year_dateOfDay_dayNumber {date : CivilDate} (valid : Valid date) :
    (dateOfDay (dayNumber date)).year = date.year := by
  have within := dayNumber_within_year valid
  have found := dayNumber_within_year (dateOfDay_valid (dayNumber date))
  rw [dayNumber_dateOfDay] at found
  rcases Int.lt_trichotomy (dateOfDay (dayNumber date)).year date.year with before | same | after
  · have ordered := firstDayOfYear_mono (Int.add_one_le_of_lt before)
    omega
  · exact same
  · have ordered := firstDayOfYear_mono (Int.add_one_le_of_lt after)
    omega

end Calendar

end Sluice
