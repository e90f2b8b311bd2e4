import Sluice.Time.Calendar

/-!
# Moments

A moment is an instant together with the offset in which it is told.  A second can hold a leap
second: its nanoseconds then go on past a thousand million.  Two moments are the same when their
instants are, whatever their offsets.
-/

set_option autoImplicit false

namespace Sluice

structure Moment where
  /-- Whole seconds since the beginning of 1970, in universal time. -/
  seconds : Int
  /-- Nanoseconds within the second, from a thousand million on in a leap second. -/
  nanos : Nat
  /-- Seconds that local time is ahead of universal time. -/
  offset : Int
  deriving DecidableEq, Repr

namespace Moment

def secondsPerDay : Int := 86400
def nanosPerSecond : Nat := 1000000000

def sameInstant (a b : Moment) : Bool := decide (a.seconds = b.seconds ∧ a.nanos = b.nanos)

def localSeconds (m : Moment) : Int := m.seconds + m.offset

def localDay (m : Moment) : Int := m.localSeconds / secondsPerDay

def localSecondOfDay (m : Moment) : Nat := (m.localSeconds % secondsPerDay).toNat

def ofLocal (day : Int) (secondOfDay nanos : Nat) (offset : Int) : Moment :=
  ⟨day * secondsPerDay + secondOfDay - offset, nanos, offset⟩

/-- A natural in at least `width` digits. -/
def padded (width n : Nat) : List Char :=
  let digits := Nat.toDigits 10 n
  List.replicate (width - digits.length) '0' ++ digits

/-- A year: four digits from zero to 9999, else a sign and at least four digits. -/
def yearText (year : Int) : List Char :=
  if 0 ≤ year ∧ year ≤ 9999 then padded 4 year.toNat
  else (if year < 0 then '-' else '+') :: padded 4 year.natAbs

def dateText (date : CivilDate) : List Char :=
  yearText date.year ++ '-' :: padded 2 date.month ++ '-' :: padded 2 date.day

/-- Nanoseconds of a second, in three, six or nine digits, the fewest that are exact. -/
def fractionText (nanos : Nat) : List Char :=
  if nanos = 0 then []
  else if nanos % 1000000 = 0 then '.' :: padded 3 (nanos / 1000000)
  else if nanos % 1000 = 0 then '.' :: padded 6 (nanos / 1000)
  else '.' :: padded 9 nanos

/-- An offset in hours and minutes; no offset is `Z`. -/
def offsetText (offset : Int) : List Char :=
  if offset = 0 then ['Z']
  else
    let minutes := (offset.natAbs + 30) / 60
    (if offset < 0 then '-' else '+') :: padded 2 (minutes / 60) ++ ':' :: padded 2 (minutes % 60)

/-- The RFC 3339 text; a leap second is written as second 60. -/
def text (m : Moment) : String :=
  let second := m.localSecondOfDay
  let leap := nanosPerSecond ≤ m.nanos
  let seconds := second % 60 + (if leap then 1 else 0)
  let nanos := if leap then m.nanos - nanosPerSecond else m.nanos
  String.ofList (dateText (Calendar.dateOfDay m.localDay) ++
    'T' :: padded 2 (second / 3600) ++ ':' :: padded 2 (second / 60 % 60) ++
    ':' :: padded 2 seconds ++ fractionText nanos ++ offsetText m.offset)

end Moment

end Sluice
