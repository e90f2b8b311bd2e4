/-!
# The Gregorian calendar

Dates are counted in days from 1970-01-01, and years go back without a gap through year zero.  A
year is taken to begin in March, so that the leap day is its last day and the months before it
have a regular length.
-/

set_option autoImplicit false

namespace Sluice

structure CivilDate where
  year : Int
  month : Nat
  day : Nat
  deriving DecidableEq, Repr

namespace Calendar

/-- Days of a 400-year cycle. -/
def cycleDays : Int := 146097

/-- Days from the first of March of year zero to 1970-01-01. -/
def epochShift : Int := 719468

def isLeapYear (year : Int) : Bool :=
  decide (year % 4 = 0 ∧ (year % 100 ≠ 0 ∨ year % 400 = 0))

def daysInMonth (year : Int) (month : Nat) : Nat :=
  if month = 2 then (if isLeapYear year then 29 else 28)
  else if month = 4 ∨ month = 6 ∨ month = 9 ∨ month = 11 then 30
  else 31

/-- Days from the first of March to a day of the March year; March is month zero. -/
def dayOfMarchYear (marchMonth day : Int) : Int := (153 * marchMonth + 2) / 5 + day - 1

/-- Days since 1970-01-01. -/
def dayNumber (date : CivilDate) : Int :=
  let year := if date.month ≤ 2 then date.year - 1 else date.year
  let marchMonth : Int := if date.month ≤ 2 then date.month + 9 else (date.month : Int) - 3
  let cycle := year / 400
  let yearOfCycle := year % 400
  cycle * cycleDays + yearOfCycle * 365 + yearOfCycle / 4 - yearOfCycle / 100
    + dayOfMarchYear marchMonth date.day - epochShift

/-- The date of a day counted from 1970-01-01. -/
def dateOfDay (dayNumber : Int) : CivilDate :=
  let shifted := dayNumber + epochShift
  let cycle := shifted / cycleDays
  let dayOfCycle := shifted % cycleDays
  let yearOfCycle :=
    (dayOfCycle - dayOfCycle / 1460 + dayOfCycle / 36524 - dayOfCycle / 146096) / 365
  let dayOfYear := dayOfCycle - (365 * yearOfCycle + yearOfCycle / 4 - yearOfCycle / 100)
  let marchMonth := (5 * dayOfYear + 2) / 153
  let day := dayOfYear - (153 * marchMonth + 2) / 5 + 1
  let month := if marchMonth < 10 then marchMonth + 3 else marchMonth - 9
  ⟨yearOfCycle + cycle * 400 + (if month ≤ 2 then 1 else 0), month.toNat, day.toNat⟩

/-- The years that dates can have. -/
def minYear : Int := -262143
def maxYear : Int := 262142

def dayOf? (year : Int) (month day : Nat) : Option Int :=
  if minYear ≤ year ∧ year ≤ maxYear ∧ 1 ≤ month ∧ month ≤ 12 ∧ 1 ≤ day ∧
      day ≤ daysInMonth year month then
    some (dayNumber ⟨year, month, day⟩)
  else none

def daysInYear (year : Int) : Nat := if isLeapYear year then 366 else 365

def firstDayOfYear (year : Int) : Int := dayNumber ⟨year, 1, 1⟩

/-- The day number of the `ordinal`-th day of a year. -/
def dayOfOrdinal? (year : Int) (ordinal : Nat) : Option Int :=
  if minYear ≤ year ∧ year ≤ maxYear ∧ 1 ≤ ordinal ∧ ordinal ≤ daysInYear year then
    some (firstDayOfYear year + ordinal - 1)
  else none

def ordinalOfDay (dayNumber : Int) : Nat :=
  (dayNumber - firstDayOfYear (dateOfDay dayNumber).year + 1).toNat

/-- The day of the week, counted from Monday. -/
def weekday (dayNumber : Int) : Nat := ((dayNumber + 3) % 7).toNat

def daysSince (weekday start : Nat) : Nat := (weekday + 7 - start) % 7

/-- The week of the year, when weeks begin on `start`; days before the first such day are in week
zero. -/
def weekOfYear (dayNumber : Int) (start : Nat) : Nat :=
  (ordinalOfDay dayNumber + 6 - daysSince (weekday dayNumber) start) / 7

/-- The Monday of the first ISO week of a year, the week that holds the fourth of January. -/
def isoYearStart (year : Int) : Int :=
  let fourth := dayNumber ⟨year, 1, 4⟩
  fourth - weekday fourth

def isoWeeksInYear (year : Int) : Nat :=
  ((isoYearStart (year + 1) - isoYearStart year) / 7).toNat

def isoWeekOfDay (dayNumber : Int) : Int × Nat :=
  let year := (dateOfDay dayNumber).year
  let year :=
    if dayNumber < isoYearStart year then year - 1
    else if isoYearStart (year + 1) ≤ dayNumber then year + 1
    else year
  (year, ((dayNumber - isoYearStart year) / 7 + 1).toNat)

def dayOfIsoWeek? (year : Int) (week weekday : Nat) : Option Int :=
  if 1 ≤ week ∧ week ≤ isoWeeksInYear year then
    let day := isoYearStart year + 7 * ((week : Int) - 1) + weekday
    let found := (dateOfDay day).year
    if minYear ≤ found ∧ found ≤ maxYear then some day else none
  else none

end Calendar

end Sluice
