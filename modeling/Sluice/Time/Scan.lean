import Sluice.Number.Reading
import Sluice.Text.Blank
import Sluice.Time.Fault

/-!
# Scanning parts of date texts

Each scanner reads one part from the front of a text and returns it with the rest.
-/

set_option autoImplicit false

namespace Sluice

namespace TimeScan

/-- The bytes that a text takes in UTF-8. -/
def utf8Length : List Char → Nat
  | [] => 0
  | c :: rest => c.utf8Size + utf8Length rest

def isDigit (c : Char) : Bool := decide ('0' ≤ c ∧ c ≤ '9')

/-- Reads at most `max` digits; faults when fewer than `min` are there. -/
def digits (min : Nat) : Nat → Nat → Nat → List Char → Except TimeFault (Nat × List Char)
  | _, 0, value, text => .ok (value, text)
  | count, _ + 1, value, [] => if count < min then .error .tooShort else .ok (value, [])
  | count, max + 1, value, c :: rest =>
    if isDigit c then
      let next := 10 * value + (c.toNat - '0'.toNat)
      if int64Max < next then .error .outOfRange else digits min (count + 1) max next rest
    else if count < min then .error .invalid
    else .ok (value, c :: rest)

/-- A number of `min` to `max` digits. -/
def number (min max : Nat) (text : List Char) : Except TimeFault (Nat × List Char) :=
  if utf8Length text < min then .error .tooShort else digits min 0 max 0 text

/-- A fraction of a second as nanoseconds; digits after the ninth are passed over. -/
def nanoseconds (text : List Char) : Except TimeFault (Nat × List Char) := do
  let (value, rest) ← number 1 9 text
  let scale := tenTo (9 - (text.length - rest.length))
  return (value * scale, rest.dropWhile isDigit)

/-- A fraction of a second in exactly `count` digits, as nanoseconds. -/
def fixedNanoseconds (count : Nat) (text : List Char) : Except TimeFault (Nat × List Char) := do
  let (value, rest) ← number count count text
  return (value * tenTo (9 - count), rest)

def lowerAscii (text : List Char) : List Char := text.map Char.toLower

/-- The first of the three-letter names that the text begins with, whatever its case. -/
def shortName (names : List String) (text : List Char) : Except TimeFault (Nat × List Char) :=
  if utf8Length text < 3 then .error .tooShort
  else
    match names.findIdx? fun name => lowerAscii (text.take 3) = name.toList with
    | some index => .ok (index, text.drop 3)
    | none => .error .invalid

/-- A three-letter name and the rest of the full name, if it is there. -/
def longName (names endings : List String) (text : List Char) :
    Except TimeFault (Nat × List Char) := do
  let (index, rest) ← shortName names text
  let ending := (endings.getD index "").toList
  if lowerAscii (rest.take ending.length) = ending then
    return (index, rest.drop ending.length)
  else return (index, rest)

def monthNames : List String :=
  ["jan", "feb", "mar", "apr", "may", "jun", "jul", "aug", "sep", "oct", "nov", "dec"]

def monthEndings : List String :=
  ["uary", "ruary", "ch", "il", "", "e", "y", "ust", "tember", "ober", "ember", "ember"]

def weekdayNames : List String := ["mon", "tue", "wed", "thu", "fri", "sat", "sun"]

def weekdayEndings : List String := ["day", "sday", "nesday", "rsday", "day", "urday", "day"]

/-- How the colon between the hours and minutes of an offset is read. -/
inductive OffsetColon where
  /-- Exactly one colon. -/
  | required
  /-- Any run of colons and blanks, also none. -/
  | free
  deriving DecidableEq, Repr

def OffsetColon.skip : OffsetColon → List Char → Except TimeFault (List Char)
  | .required, ':' :: rest => .ok rest
  | .required, [] => .error .tooShort
  | .required, _ => .error .invalid
  | .free, text => .ok (text.dropWhile fun c => c = ':' || isBlank c)

/-- The sign of an offset; the typographic minus counts as one. -/
def offsetSign : List Char → Except TimeFault (Bool × List Char)
  | [] => .error .tooShort
  | c :: rest =>
    if c = '+' then .ok (false, rest)
    else if c = '-' || c.toNat = 0x2212 then .ok (true, rest)
    else .error .invalid

/-- Two digits, where two bytes at least must be left. -/
def twoDigits (text : List Char) : Except TimeFault (Nat × List Char) :=
  if utf8Length text < 2 then .error .tooShort
  else
    match text with
    | a :: b :: rest =>
      if isDigit a && isDigit b then
        .ok (10 * (a.toNat - '0'.toNat) + (b.toNat - '0'.toNat), rest)
      else .error .invalid
    | _ => .error .invalid

/-- An offset from universal time, in seconds. -/
def offset (colon : OffsetColon) (allowsZulu allowsHours : Bool) (text : List Char) :
    Except TimeFault (Int × List Char) := do
  match allowsZulu, text with
  | true, 'Z' :: rest => return (0, rest)
  | true, 'z' :: rest => return (0, rest)
  | _, _ =>
    let (negative, rest) ← offsetSign text
    let (hours, rest) ← twoDigits rest
    let rest ← colon.skip rest
    let (minutes, rest) ←
      if utf8Length rest < 2 then
        if allowsHours && rest.isEmpty then pure (0, rest) else throw .tooShort
      else
        match twoDigits rest with
        | .ok (minutes, rest) => if 60 ≤ minutes then throw .outOfRange else pure (minutes, rest)
        | .error fault => throw fault
    let seconds : Int := hours * 3600 + minutes * 60
    return (if negative then -seconds else seconds, rest)

end TimeScan

end Sluice
