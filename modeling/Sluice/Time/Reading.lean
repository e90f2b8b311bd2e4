import Sluice.Time.Fields
import Sluice.Time.Format
import Sluice.Time.Scan

/-!
# Reading dates

A text is read with a format, item by item, or without one as a date of the internet: date, time
and offset in fixed places.  A format that yields no offset is read as universal time, and one that
yields no time as midnight.
-/

set_option autoImplicit false

namespace Sluice

/-- The fields read so far, and the rest of the text. -/
abbrev DateScan := DateFields × List Char

namespace NumberPart

/-- The greatest number of digits; `none` for a number of any length. -/
def width : NumberPart → Option Nat
  | year => some 4
  | isoYear => some 4
  | ordinal => some 3
  | quarter => some 1
  | weekdayFromSunday => some 1
  | weekdayFromMonday => some 1
  | nanosecond => some 9
  | timestamp => none
  | _ => some 2

def isSigned : NumberPart → Bool
  | year => true
  | isoYear => true
  | _ => false

def store : NumberPart → DateFields → Int → Except TimeFault DateFields
  | year => DateFields.setYear
  | yearDiv100 => DateFields.setYearDiv100
  | yearMod100 => DateFields.setYearMod100
  | isoYear => DateFields.setIsoYear
  | isoYearMod100 => DateFields.setIsoYearMod100
  | quarter => DateFields.setQuarter
  | month => DateFields.setMonth
  | day => DateFields.setDay
  | weekFromSunday => DateFields.setWeekFromSunday
  | weekFromMonday => DateFields.setWeekFromMonday
  | isoWeek => DateFields.setIsoWeek
  | weekdayFromSunday => DateFields.setWeekdayFromSunday
  | weekdayFromMonday => DateFields.setWeekdayFromMonday
  | ordinal => DateFields.setOrdinal
  | hour => DateFields.setHour
  | hour12 => DateFields.setHour12
  | minute => DateFields.setMinute
  | second => DateFields.setSecond
  | nanosecond => DateFields.setNanosecond
  | timestamp => DateFields.setTimestamp

/-- The number at the front of a text; a sign lifts the limit of digits. -/
def scan (part : NumberPart) (text : List Char) : Except TimeFault (Int × List Char) := do
  let text := text.dropWhile isBlank
  let plain := do
    let (value, rest) ← TimeScan.number 1 (part.width.getD text.length) text
    return ((value : Int), rest)
  if !part.isSigned then plain
  else
    match text with
    | '-' :: rest =>
      let (value, rest) ← TimeScan.number 1 rest.length rest
      return (-(value : Int), rest)
    | '+' :: rest =>
      let (value, rest) ← TimeScan.number 1 rest.length rest
      return ((value : Int), rest)
    | _ => plain

end NumberPart

namespace DateScan

def literal (expected text : List Char) : Except TimeFault (List Char) :=
  if TimeScan.utf8Length text < TimeScan.utf8Length expected then .error .tooShort
  else if text.take expected.length = expected then .ok (text.drop expected.length)
  else .error .invalid

def number (part : NumberPart) (fields : DateFields) (text : List Char) :
    Except TimeFault DateScan := do
  let (value, rest) ← part.scan text
  return (← part.store fields value, rest)

def halfDay (text : List Char) : Except TimeFault (Bool × List Char) :=
  if TimeScan.utf8Length text < 2 then .error .tooShort
  else
    match TimeScan.lowerAscii (text.take 2) with
    | ['a', 'm'] => .ok (false, text.drop 2)
    | ['p', 'm'] => .ok (true, text.drop 2)
    | _ => .error .invalid

/-- Scans a run of items that are numbers with characters between them. -/
def series (fields : DateFields) (text : List Char) :
    List (List Char × NumberPart) → Except TimeFault DateScan
  | [] => .ok (fields, text)
  | (separator, part) :: rest => do
    let text ← if separator.isEmpty then pure text
      else literal separator (text.dropWhile isBlank)
    let (fields, text) ← number part fields text
    series fields text rest

/-- A fraction after a point, if there is a point. -/
def fraction (scan : List Char → Except TimeFault (Nat × List Char)) (fields : DateFields)
    (text : List Char) : Except TimeFault DateScan :=
  match text with
  | '.' :: rest => do
    let (nanos, rest) ← scan rest
    return (← fields.setNanosecond nanos, rest)
  | _ => .ok (fields, text)

def storeOffset (fields : DateFields) (found : Except TimeFault (Int × List Char)) :
    Except TimeFault DateScan := do
  let (offset, rest) ← found
  return (← fields.setOffset offset, rest)

/-- A whole date, time and offset, with blanks allowed between the parts. -/
def internetTime (fields : DateFields) (text : List Char) : Except TimeFault DateScan := do
  let (fields, text) ← series fields text [([], .year), (['-'], .month), (['-'], .day)]
  let text ← match text with
    | [] => throw .tooShort
    | c :: rest => if c = 't' || c = 'T' || c = ' ' then pure rest else throw .invalid
  let (fields, text) ← series fields text [([], .hour), ([':'], .minute), ([':'], .second)]
  let (fields, text) ← fraction TimeScan.nanoseconds fields text
  let text := text.dropWhile isBlank
  if TimeScan.lowerAscii (text.take 3) = "utc".toList then
    storeOffset fields (.ok (0, text.drop 3))
  else storeOffset fields (TimeScan.offset .free true false text)

def named (part : NamedPart) (fields : DateFields) (text : List Char) :
    Except TimeFault DateScan :=
  match part with
  | .shortMonth => do
    let (index, rest) ← TimeScan.shortName TimeScan.monthNames text
    return (← fields.setMonth (index + 1), rest)
  | .longMonth => do
    let (index, rest) ← TimeScan.longName TimeScan.monthNames TimeScan.monthEndings text
    return (← fields.setMonth (index + 1), rest)
  | .shortWeekday => do
    let (index, rest) ← TimeScan.shortName TimeScan.weekdayNames text
    return (← fields.setWeekday index, rest)
  | .longWeekday => do
    let (index, rest) ← TimeScan.longName TimeScan.weekdayNames TimeScan.weekdayEndings text
    return (← fields.setWeekday index, rest)
  | .halfDay => do
    let (afternoon, rest) ← halfDay text
    return (← fields.setHalfDay afternoon, rest)
  | .fraction => fraction TimeScan.nanoseconds fields text
  | .fixedFraction digits => fraction (TimeScan.fixedNanoseconds digits) fields text
  | .bareFraction digits => do
    let (nanos, rest) ← TimeScan.fixedNanoseconds digits text
    return (← fields.setNanosecond nanos, rest)
  | .zoneName => .ok (fields, text.dropWhile fun c => !isBlank c)
  | .offset => storeOffset fields (TimeScan.offset .free false false (text.dropWhile isBlank))
  | .looseOffset => storeOffset fields (TimeScan.offset .free true true (text.dropWhile isBlank))
  | .internetTime => internetTime fields text

def item (item : FormatItem) (fields : DateFields) (text : List Char) :
    Except TimeFault DateScan :=
  match item with
  | .literal expected => (literal expected text).map fun rest => (fields, rest)
  | .blanks => .ok (fields, text.dropWhile isBlank)
  | .number part => number part fields text
  | .named part => named part fields text
  | .bad => .error .badPattern

def items (fields : DateFields) (text : List Char) : List FormatItem →
    Except TimeFault DateFields
  | [] => if text.isEmpty then .ok fields else .error .tooLong
  | next :: rest => do
    let (fields, text) ← item next fields text
    items fields text rest

end DateScan

def readFields (format raw : String) : Except TimeFault DateFields :=
  let format := format.toList
  DateScan.items .empty raw.toList (FormatItem.ofFormat (format.length + 1) format)

/-- A date, time and offset in fixed places. -/
def readInternetTime (raw : String) : Except TimeFault Moment := do
  let text := raw.toList
  if TimeScan.utf8Length text < 19 then throw .tooShort
  let digit (place : Nat) : Except TimeFault Nat :=
    match text[place]?.bind digitValue? with
    | some d => .ok d
    | none => .error .invalid
  let pair (place : Nat) : Except TimeFault Nat := do
    return 10 * (← digit place) + (← digit (place + 1))
  let expect (place : Nat) (allowed : List Char) : Except TimeFault Unit :=
    match text[place]? with
    | some c => if allowed.contains c then .ok () else .error .invalid
    | none => .error .invalid
  let century ← pair 0
  let year ← pair 2
  expect 4 ['-']
  let month ← pair 5
  expect 7 ['-']
  let day ← pair 8
  let day ← DateFields.orOutOfRange (Calendar.dayOf? (100 * century + year) month day)
  expect 10 ['T', 't', ' ']
  let hour ← pair 11
  expect 13 [':']
  let minute ← pair 14
  expect 16 [':']
  let second ← pair 17
  if 23 < hour ∨ 59 < minute ∨ 60 < second then throw .outOfRange
  let (second, leap) := if second = 60 then (59, Moment.nanosPerSecond) else (second, 0)
  let (nanos, rest) ← match text.drop 19 with
    | '.' :: rest => TimeScan.nanoseconds rest
    | rest => pure (0, rest)
  let (offset, rest) ← TimeScan.offset .required true false rest
  if !rest.isEmpty then throw .tooLong
  if offset ≤ -DateFields.offsetLimit ∨ DateFields.offsetLimit ≤ offset then throw .outOfRange
  return Moment.ofLocal day (hour * 3600 + minute * 60 + second) (leap + nanos) offset

/-- The moment of a text; an empty format stands for a date of the internet.  A reading with an
offset comes first, then one in universal time, then one of the date alone. -/
def readMoment (format raw : String) : Except TimeFault Moment :=
  if format.isEmpty then readInternetTime raw
  else do
    let fields ← readFields format raw
    match fields.toMoment, fields.toLocal 0 with
    | .ok moment, _ => return moment
    | _, .ok time => return Moment.ofLocal time.day time.second time.nanos 0
    | _, _ => return Moment.ofLocal (← fields.toDay) 0 0 0

end Sluice
