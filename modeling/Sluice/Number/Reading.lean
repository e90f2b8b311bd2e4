import Sluice.Number.Binary64

/-!
# Reading numbers

Texts of integers and of decimal numbers, without blanks around them.  An integer is read from the
left and the first fault decides: a character that is no digit, or a value that leaves the 64-bit
range.  A decimal is rounded correctly, however long it is.
-/

set_option autoImplicit false

namespace Sluice

def digitValue? (c : Char) : Option Nat :=
  if '0' ≤ c ∧ c ≤ '9' then some (c.toNat - '0'.toNat) else none

/-- The least and the greatest 64-bit integer. -/
def int64Min : Int := -9223372036854775808
def int64Max : Int := 9223372036854775807

def fitsInt64 (n : Int) : Bool := decide (int64Min ≤ n ∧ n ≤ int64Max)

/-- A 64-bit integer, if the number is in range. -/
def int64? (n : Int) : Option Int64 := if fitsInt64 n then some (Int64.ofInt n) else none

inductive IntegerFault where
  | empty
  | invalidDigit
  | tooLarge
  | tooSmall
  deriving DecidableEq, Repr

namespace IntegerFault

def message : IntegerFault → String
  | empty => "cannot parse integer from empty string"
  | invalidDigit => "invalid digit found in string"
  | tooLarge => "number too large to fit in target type"
  | tooSmall => "number too small to fit in target type"

end IntegerFault

/-- Adds digits to `value`, downward for a negative number, and stops at the first fault. -/
def readDigits (negative : Bool) : List Char → Int → Except IntegerFault Int
  | [], value => .ok value
  | c :: rest, value =>
    match digitValue? c with
    | none => .error .invalidDigit
    | some d =>
      let next := if negative then 10 * value - d else 10 * value + d
      if next < int64Min then .error .tooSmall
      else if int64Max < next then .error .tooLarge
      else readDigits negative rest next

/-- An integer: an optional sign and at least one digit. -/
def readInt (text : String) : Except IntegerFault Int64 :=
  let read (negative : Bool) (digits : List Char) : Except IntegerFault Int64 :=
    if digits.isEmpty then .error .invalidDigit
    else (readDigits negative digits 0).map Int64.ofInt
  match text.toList with
  | [] => .error .empty
  | '-' :: digits => read true digits
  | '+' :: digits => read false digits
  | digits => read false digits

inductive DecimalFault where
  | empty
  | invalid
  deriving DecidableEq, Repr

namespace DecimalFault

def message : DecimalFault → String
  | empty => "cannot parse float from empty string"
  | invalid => "invalid float literal"

end DecimalFault

/-- The value of a run of digits, and what follows it. -/
def spanDigits (text : List Char) : List Char × List Char :=
  (text.takeWhile fun c => (digitValue? c).isSome, text.dropWhile fun c => (digitValue? c).isSome)

def digitsValue (digits : List Char) : Nat :=
  digits.foldl (fun n c => 10 * n + (digitValue? c).getD 0) 0

/-- `± digits · 10 ^ exponent`, rounded once.  Numbers that are surely infinite or surely zero are
told by their size, so that no huge power is computed. -/
def Binary64.ofDecimal (negative : Bool) (digits : Nat) (exponent : Int) : Binary64 :=
  let size : Int := (Nat.toDigits 10 digits).length + exponent
  if digits = 0 ∨ size < -400 then Binary64.ofMagnitude negative 0
  else if 400 < size then Binary64.infinity negative
  else if 0 ≤ exponent then Binary64.ofQuotient negative (digits * tenTo exponent.toNat) 1
  else Binary64.ofQuotient negative digits (tenTo (-exponent).toNat)

/-- The exponent part of a decimal text; `none` if there is text that is no exponent. -/
def readExponent? : List Char → Option Int
  | [] => some 0
  | c :: rest =>
    if c = 'e' ∨ c = 'E' then
      let read (negative : Bool) (digits : List Char) : Option Int :=
        match spanDigits digits with
        | ([], _) => none
        | (digits, []) =>
          -- Past six digits the number is zero or infinite whatever follows.
          let size := digitsValue (digits.dropWhile (· = '0') |>.take 7)
          some (if negative then -(size : Int) else size)
        | _ => none
      match rest with
      | '-' :: digits => read true digits
      | '+' :: digits => read false digits
      | digits => read false digits
    else none

/-- A decimal number without its sign: digits with an optional point, then an optional exponent. -/
def readUnsignedDecimal? (negative : Bool) (text : List Char) : Option Binary64 :=
  let (whole, rest) := spanDigits text
  let (fraction, rest) := match rest with
    | '.' :: rest => spanDigits rest
    | _ => ([], rest)
  if whole.isEmpty && fraction.isEmpty then none
  else (readExponent? rest).map fun exponent =>
    Binary64.ofDecimal negative (digitsValue (whole ++ fraction)) (exponent - fraction.length)

def asciiLower (text : List Char) : List Char := text.map Char.toLower

/-- A decimal number, an infinity or a not-a-number, with an optional sign. -/
def readDecimal (text : String) : Except DecimalFault Binary64 :=
  let read (negative : Bool) (body : List Char) : Except DecimalFault Binary64 :=
    match readUnsignedDecimal? negative body with
    | some x => .ok x
    | none =>
      let word := asciiLower body
      if word = "inf".toList ∨ word = "infinity".toList then .ok (Binary64.infinity negative)
      else if word = "nan".toList then .ok Binary64.nan
      else .error .invalid
  match text.toList with
  | [] => .error .empty
  | '-' :: body => read true body
  | '+' :: body => read false body
  | body => read false body

end Sluice
