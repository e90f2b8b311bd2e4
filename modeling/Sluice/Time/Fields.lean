import Sluice.Number.Reading
import Sluice.Time.Fault
import Sluice.Time.Moment

/-!
# Fields of a date

What was read from a date text, part by part.  A part that is read twice must be the same both
times.  The date is found from the first group of parts that fixes it, and every other part that
was read must agree with it.
-/

set_option autoImplicit false

namespace Sluice

structure DateFields where
  year : Option Int
  yearDiv100 : Option Int
  yearMod100 : Option Int
  isoYear : Option Int
  isoYearMod100 : Option Int
  quarter : Option Nat
  month : Option Nat
  weekFromSunday : Option Nat
  weekFromMonday : Option Nat
  isoWeek : Option Nat
  /-- Counted from Monday. -/
  weekday : Option Nat
  ordinal : Option Nat
  day : Option Nat
  hourDiv12 : Option Nat
  hourMod12 : Option Nat
  minute : Option Nat
  second : Option Nat
  nanosecond : Option Nat
  timestamp : Option Int
  offset : Option Int
  deriving Repr

namespace DateFields

def empty : DateFields :=
  ⟨none, none, none, none, none, none, none, none, none, none, none, none, none, none, none, none,
    none, none, none, none⟩

/-- A part that was read, if it agrees with what was read before. -/
def agree {α : Type} [DecidableEq α] (old : Option α) (new : α) : Except TimeFault (Option α) :=
  match old with
  | none => .ok (some new)
  | some value => if value = new then .ok (some new) else .error .impossible

def within (low high : Nat) (value : Int) : Except TimeFault Nat :=
  if (low : Int) ≤ value ∧ value ≤ high then .ok value.toNat else .error .outOfRange

/-- Numbers that years and offsets can be. -/
def fits32 (value : Int) : Except TimeFault Int :=
  if -2147483648 ≤ value ∧ value < 2147483648 then .ok value else .error .outOfRange

def setYear (f : DateFields) (value : Int) : Except TimeFault DateFields := do
  return { f with year := ← agree f.year (← fits32 value) }

def setYearDiv100 (f : DateFields) (value : Int) : Except TimeFault DateFields := do
  if value < 0 then throw .outOfRange
  return { f with yearDiv100 := ← agree f.yearDiv100 (← fits32 value) }

def setYearMod100 (f : DateFields) (value : Int) : Except TimeFault DateFields := do
  return { f with yearMod100 := ← agree f.yearMod100 (← within 0 99 value) }

def setIsoYear (f : DateFields) (value : Int) : Except TimeFault DateFields := do
  return { f with isoYear := ← agree f.isoYear (← fits32 value) }

def setIsoYearMod100 (f : DateFields) (value : Int) : Except TimeFault DateFields := do
  return { f with isoYearMod100 := ← agree f.isoYearMod100 (← within 0 99 value) }

def setQuarter (f : DateFields) (value : Int) : Except TimeFault DateFields := do
  return { f with quarter := ← agree f.quarter (← within 1 4 value) }

def setMonth (f : DateFields) (value : Int) : Except TimeFault DateFields := do
  return { f with month := ← agree f.month (← within 1 12 value) }

def setWeekFromSunday (f : DateFields) (value : Int) : Except TimeFault DateFields := do
  return { f with weekFromSunday := ← agree f.weekFromSunday (← within 0 53 value) }

def setWeekFromMonday (f : DateFields) (value : Int) : Except TimeFault DateFields := do
  return { f with weekFromMonday := ← agree f.weekFromMonday (← within 0 53 value) }

def setIsoWeek (f : DateFields) (value : Int) : Except TimeFault DateFields := do
  return { f with isoWeek := ← agree f.isoWeek (← within 1 53 value) }

/-- A weekday, counted from Monday. -/
def setWeekday (f : DateFields) (value : Nat) : Except TimeFault DateFields := do
  return { f with weekday := ← agree f.weekday value }

/-- A weekday from one to seven, counted from Monday. -/
def setWeekdayFromMonday (f : DateFields) (value : Int) : Except TimeFault DateFields := do
  f.setWeekday ((← within 1 7 value) - 1)

/-- A weekday from zero to six, counted from Sunday. -/
def setWeekdayFromSunday (f : DateFields) (value : Int) : Except TimeFault DateFields := do
  f.setWeekday (((← within 0 6 value) + 6) % 7)

def setOrdinal (f : DateFields) (value : Int) : Except TimeFault DateFields := do
  return { f with ordinal := ← agree f.ordinal (← within 1 366 value) }

def setDay (f : DateFields) (value : Int) : Except TimeFault DateFields := do
  return { f with day := ← agree f.day (← within 1 31 value) }

def setHalfDay (f : DateFields) (afternoon : Bool) : Except TimeFault DateFields := do
  return { f with hourDiv12 := ← agree f.hourDiv12 (if afternoon then 1 else 0) }

def setHour (f : DateFields) (value : Int) : Except TimeFault DateFields := do
  let hour ← within 0 23 value
  let hourDiv12 ← agree f.hourDiv12 (hour / 12)
  let hourMod12 ← agree f.hourMod12 (hour % 12)
  return { f with hourDiv12 := hourDiv12, hourMod12 := hourMod12 }

def setHour12 (f : DateFields) (value : Int) : Except TimeFault DateFields := do
  return { f with hourMod12 := ← agree f.hourMod12 ((← within 1 12 value) % 12) }

def setMinute (f : DateFields) (value : Int) : Except TimeFault DateFields := do
  return { f with minute := ← agree f.minute (← within 0 59 value) }

def setSecond (f : DateFields) (value : Int) : Except TimeFault DateFields := do
  return { f with second := ← agree f.second (← within 0 60 value) }

def setNanosecond (f : DateFields) (value : Int) : Except TimeFault DateFields := do
  return { f with nanosecond := ← agree f.nanosecond (← within 0 999999999 value) }

def setTimestamp (f : DateFields) (value : Int) : Except TimeFault DateFields := do
  return { f with timestamp := ← agree f.timestamp value }

def setOffset (f : DateFields) (value : Int) : Except TimeFault DateFields := do
  return { f with offset := ← agree f.offset (← fits32 value) }

/-! ## Dates -/

/-- The year that a year, its century and its year in the century stand for.  Without a century,
years below 70 are of the century that begins in 2000. -/
def resolveYear : Option Int → Option Int → Option Int → Except TimeFault (Option Int)
  | year, none, none => .ok year
  | some year, century, rest =>
    if year < 0 then .error .impossible
    else if century.getD (year / 100) = year / 100 ∧ rest.getD (year % 100) = year % 100 then
      .ok (some year)
    else .error .impossible
  | none, some century, some rest =>
    if century < 0 then .error .impossible
    else (fits32 (century * 100 + rest)).map some
  | none, none, some rest => .ok (some (rest + if rest < 70 then 2000 else 1900))
  | none, some _, none => .error .notEnough

/-- A part was not read, or it is this value. -/
def permits {α : Type} [DecidableEq α] (part : Option α) (value : α) : Bool :=
  match part with
  | none => true
  | some given => decide (given = value)

/-- A century or a year in the century agrees with a year; years before zero have neither. -/
def permitsCentury (part : Option Int) (year value : Int) : Bool :=
  match part with
  | none => true
  | some given => decide (0 ≤ year ∧ given = value)

def permitsCivil (f : DateFields) (day : Int) : Bool :=
  let date := Calendar.dateOfDay day
  permits f.year date.year && permitsCentury f.yearDiv100 date.year (date.year / 100) &&
    permitsCentury f.yearMod100 date.year (date.year % 100) && permits f.month date.month &&
    permits f.day date.day

def permitsIsoWeek (f : DateFields) (day : Int) : Bool :=
  let (year, week) := Calendar.isoWeekOfDay day
  permits f.isoYear year && permitsCentury f.isoYearMod100 year (year % 100) &&
    permits f.isoWeek week && permits f.weekday (Calendar.weekday day)

def permitsOrdinal (f : DateFields) (day : Int) : Bool :=
  permits f.ordinal (Calendar.ordinalOfDay day) &&
    permits f.weekFromSunday (Calendar.weekOfYear day 6) &&
    permits f.weekFromMonday (Calendar.weekOfYear day 0)

/-- The day of a week of the year, when weeks begin on `start`. -/
def dayOfWeek (year : Int) (week weekday start : Nat) : Except TimeFault Int :=
  if year < Calendar.minYear ∨ Calendar.maxYear < year then .error .outOfRange
  else
    let first := Calendar.firstDayOfYear year
    let ordinal : Int := 1 + Calendar.daysSince start (Calendar.weekday first) +
      ((week : Int) - 1) * 7 + Calendar.daysSince weekday start
    if 0 < ordinal ∧ ordinal ≤ Calendar.daysInYear year then .ok (first + ordinal - 1)
    else .error .impossible

def orOutOfRange {α : Type} : Option α → Except TimeFault α
  | some value => .ok value
  | none => .error .outOfRange

/-- The day that the parts fix, and whether the parts that were not needed agree with it. -/
def findDay (f : DateFields) (year isoYear : Option Int) : Except TimeFault (Int × Bool) := do
  match year, f.month, f.day with
  | some year, some month, some day =>
    let day ← orOutOfRange (Calendar.dayOf? year month day)
    return (day, f.permitsIsoWeek day && f.permitsOrdinal day)
  | _, _, _ =>
    let checked (day : Int) : Int × Bool :=
      (day, f.permitsCivil day && f.permitsIsoWeek day && f.permitsOrdinal day)
    match year, f.ordinal, f.weekFromSunday, f.weekFromMonday, f.weekday with
    | some year, some ordinal, _, _, _ =>
      return checked (← orOutOfRange (Calendar.dayOfOrdinal? year ordinal))
    | some year, none, some week, _, some weekday =>
      return checked (← dayOfWeek year week weekday 6)
    | some year, none, none, some week, some weekday =>
      return checked (← dayOfWeek year week weekday 0)
    | _, _, _, _, _ =>
      match isoYear, f.isoWeek, f.weekday with
      | some isoYear, some week, some weekday =>
        let day ← orOutOfRange (Calendar.dayOfIsoWeek? isoYear week weekday)
        return (day, f.permitsCivil day && f.permitsOrdinal day)
      | _, _, _ => throw .notEnough

def toDay (f : DateFields) : Except TimeFault Int := do
  let year ← resolveYear f.year f.yearDiv100 f.yearMod100
  let isoYear ← resolveYear f.isoYear none f.isoYearMod100
  let (day, agrees) ← f.findDay year isoYear
  let quarter := ((Calendar.dateOfDay day).month + 2) / 3
  if agrees && permits f.quarter quarter then return day else throw .impossible

/-! ## Times -/

def orNotEnough {α : Type} : Option α → Except TimeFault α
  | some value => .ok value
  | none => .error .notEnough

/-- The second of the day and its nanoseconds; second 60 is a leap second. -/
def toTime (f : DateFields) : Except TimeFault (Nat × Nat) := do
  let half ← orNotEnough f.hourDiv12
  let hour ← orNotEnough f.hourMod12
  let minute ← orNotEnough f.minute
  let second := f.second.getD 0
  let (second, leap) := if second = 60 then (59, Moment.nanosPerSecond) else (second, 0)
  if f.nanosecond.isSome && f.second.isNone then throw .notEnough
  return ((half * 12 + hour) * 3600 + minute * 60 + second, leap + f.nanosecond.getD 0)

/-! ## Dates with times -/

/-- A local day, second of the day and nanoseconds. -/
structure LocalTime where
  day : Int
  second : Nat
  nanos : Nat
  deriving DecidableEq, Repr

def LocalTime.seconds (t : LocalTime) : Int := t.day * Moment.secondsPerDay + t.second

/-- Fills in the parts that a timestamp fixes and finds the local time from them. -/
def fromTimestamp (f : DateFields) (timestamp offset : Int) : Except TimeFault LocalTime := do
  let seconds := timestamp + offset
  if !fitsInt64 seconds then throw .outOfRange
  let year := (Calendar.dateOfDay (seconds / Moment.secondsPerDay)).year
  if year < Calendar.minYear ∨ Calendar.maxYear < year then throw .outOfRange
  let second := seconds % 60
  let leap := f.second = some 60
  if leap && second ≠ 59 && second ≠ 0 then throw .impossible
  let seconds := if leap && second = 0 then seconds - 1 else seconds
  let day := seconds / Moment.secondsPerDay
  let time := seconds % Moment.secondsPerDay
  let f ← if leap then pure f else f.setSecond second
  let f ← f.setYear (Calendar.dateOfDay day).year
  let f ← f.setOrdinal (Calendar.ordinalOfDay day)
  let f ← f.setHour (time / 3600)
  let f ← f.setMinute (time / 60 % 60)
  let day ← f.toDay
  let (second, nanos) ← f.toTime
  return ⟨day, second, nanos⟩

/-- The local time of the parts, where a timestamp counts from the given offset. -/
def toLocal (f : DateFields) (offset : Int) : Except TimeFault LocalTime :=
  match f.toDay, f.toTime with
  | .ok day, .ok (second, nanos) =>
    let time : LocalTime := ⟨day, second, nanos⟩
    match f.timestamp with
    | none => .ok time
    | some given =>
      let timestamp := time.seconds - offset
      if given = timestamp ∨ (Moment.nanosPerSecond ≤ nanos ∧ given = timestamp + 1) then .ok time
      else .error .impossible
  | day, time =>
    let faults := [day.map fun _ => (), time.map fun _ => ()].filterMap fun part =>
      match part with
      | .error fault => some fault
      | .ok _ => none
    match f.timestamp with
    | some timestamp =>
      if faults.contains .outOfRange then .error .outOfRange
      else if faults.contains .impossible then .error .impossible
      else f.fromTimestamp timestamp offset
    | none => .error (faults.headD .notEnough)

/-- Offsets are shorter than a day. -/
def offsetLimit : Int := 86400

/-- The moment of the parts, which need an offset or a timestamp. -/
def toMoment (f : DateFields) : Except TimeFault Moment := do
  let offset ← match f.offset, f.timestamp with
    | some offset, _ => pure offset
    | none, some _ => pure 0
    | none, none => throw .notEnough
  let time ← f.toLocal offset
  if offset ≤ -offsetLimit ∨ offsetLimit ≤ offset then throw .outOfRange
  let moment := Moment.ofLocal time.day time.second time.nanos offset
  let year := (Calendar.dateOfDay (moment.seconds / Moment.secondsPerDay)).year
  if year < Calendar.minYear ∨ Calendar.maxYear < year then throw .impossible
  return moment

end DateFields

end Sluice
