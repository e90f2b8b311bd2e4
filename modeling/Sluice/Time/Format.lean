import Sluice.Text.Blank

/-!
# Date formats

A date format is a text in which a percent sign and a letter stand for a part of a date; other
text stands for itself, and blanks for any blanks.
-/

set_option autoImplicit false

namespace Sluice

/-- Parts of a date that are written as numbers. -/
inductive NumberPart where
  | year
  | yearDiv100
  | yearMod100
  | isoYear
  | isoYearMod100
  | quarter
  | month
  | day
  | weekFromSunday
  | weekFromMonday
  | isoWeek
  | weekdayFromSunday
  | weekdayFromMonday
  | ordinal
  | hour
  | hour12
  | minute
  | second
  | nanosecond
  | timestamp
  deriving DecidableEq, Repr

/-- Parts of a date that are written in a form of their own. -/
inductive NamedPart where
  | shortMonth
  | longMonth
  | shortWeekday
  | longWeekday
  | halfDay
  /-- A fraction after a point, if there is one. -/
  | fraction
  /-- A fraction of so many digits after a point, if there is a point. -/
  | fixedFraction (digits : Nat)
  /-- A fraction of so many digits. -/
  | bareFraction (digits : Nat)
  | zoneName
  | offset
  /-- An offset that may be `Z` or lack its minutes. -/
  | looseOffset
  /-- A whole date, time and offset. -/
  | internetTime
  deriving DecidableEq, Repr

inductive FormatItem where
  | literal (text : List Char)
  | blanks
  | number (part : NumberPart)
  | named (part : NamedPart)
  | bad
  deriving DecidableEq, Repr

namespace FormatItem

def char (c : Char) : FormatItem := literal [c]

def separated (separator : Char) (a b c : NumberPart) : List FormatItem :=
  [number a, char separator, number b, char separator, number c]

def clock : List FormatItem := separated ':' .hour .minute .second

def ofLetter : Char → List FormatItem
  | 'A' => [named .longWeekday]
  | 'B' => [named .longMonth]
  | 'C' => [number .yearDiv100]
  | 'D' => separated '/' .month .day .yearMod100
  | 'F' => separated '-' .year .month .day
  | 'G' => [number .isoYear]
  | 'H' => [number .hour]
  | 'I' => [number .hour12]
  | 'M' => [number .minute]
  | 'P' => [named .halfDay]
  | 'R' => [number .hour, char ':', number .minute]
  | 'S' => [number .second]
  | 'T' => clock
  | 'U' => [number .weekFromSunday]
  | 'V' => [number .isoWeek]
  | 'W' => [number .weekFromMonday]
  | 'X' => clock
  | 'Y' => [number .year]
  | 'Z' => [named .zoneName]
  | 'a' => [named .shortWeekday]
  | 'b' => [named .shortMonth]
  | 'c' =>
    [named .shortWeekday, blanks, named .shortMonth, blanks, number .day, blanks] ++ clock ++
      [blanks, number .year]
  | 'd' => [number .day]
  | 'e' => [number .day]
  | 'f' => [number .nanosecond]
  | 'g' => [number .isoYearMod100]
  | 'h' => [named .shortMonth]
  | 'j' => [number .ordinal]
  | 'k' => [number .hour]
  | 'l' => [number .hour12]
  | 'm' => [number .month]
  | 'n' => [blanks]
  | 'p' => [named .halfDay]
  | 'q' => [number .quarter]
  | 'r' => separated ':' .hour12 .minute .second ++ [blanks, named .halfDay]
  | 's' => [number .timestamp]
  | 't' => [blanks]
  | 'u' => [number .weekdayFromMonday]
  | 'v' => [number .day, char '-', named .shortMonth, char '-', number .year]
  | 'w' => [number .weekdayFromSunday]
  | 'x' => separated '/' .month .day .yearMod100
  | 'y' => [number .yearMod100]
  | 'z' => [named .offset]
  | '+' => [named .internetTime]
  | '%' => [char '%']
  | _ => [bad]

def fractionDigits? (c : Char) : Option Nat :=
  if c = '3' then some 3 else if c = '6' then some 6 else if c = '9' then some 9 else none

/-- The items of what follows a percent sign and its flag, and the rest of the format. -/
def ofSpecifier : List Char → List FormatItem × List Char
  | [] => ([bad], [])
  | ':' :: ':' :: ':' :: 'z' :: rest => ([named .offset], rest)
  | ':' :: ':' :: 'z' :: rest => ([named .offset], rest)
  | ':' :: 'z' :: rest => ([named .offset], rest)
  | '.' :: 'f' :: rest => ([named .fraction], rest)
  | '.' :: c :: 'f' :: rest =>
    match fractionDigits? c with
    | some digits => ([named (.fixedFraction digits)], rest)
    | none => ([bad], 'f' :: rest)
  | c :: 'f' :: rest =>
    match fractionDigits? c with
    | some digits => ([named (.bareFraction digits)], rest)
    | none => (ofLetter c, 'f' :: rest)
  | c :: rest => (ofLetter c, rest)

/-- The items after a percent sign.  A padding flag belongs to a single number; the flag `#` to an
offset. -/
def ofPercent : List Char → List FormatItem × List Char
  | '#' :: 'z' :: rest => ([named .looseOffset], rest)
  | '#' :: rest => ([bad], rest)
  | c :: rest =>
    if c = '-' ∨ c = '0' ∨ c = '_' then
      match ofSpecifier rest with
      | ([number part], rest) => ([number part], rest)
      | (_, rest) => ([bad], rest)
    else ofSpecifier (c :: rest)
  | [] => ([bad], [])

def isLiteral (c : Char) : Bool := c != '%' && !isBlank c

def ofFormat : Nat → List Char → List FormatItem
  | 0, _ => []
  | _ + 1, [] => []
  | fuel + 1, c :: rest =>
    if c = '%' then
      let (items, rest) := ofPercent rest
      items ++ ofFormat fuel rest
    else if isBlank c then blanks :: ofFormat fuel (rest.dropWhile isBlank)
    else literal (c :: rest.takeWhile isLiteral) :: ofFormat fuel (rest.dropWhile isLiteral)

end FormatItem

end Sluice
