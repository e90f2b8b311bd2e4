import Sluice.Number.Reading
import Sluice.Script.Datum
import Sluice.Script.Fault
import Sluice.Text.Cutting

/-!
# Operators on data

Integers stay within 64 bits or fault.  A quotient of integers is an integer when it is exact and a
float otherwise, also for a zero divisor.  Between a text and a number the comparisons read the
text as a number; data of unrelated kinds are never equal and never ordered.
-/

set_option autoImplicit false

namespace Sluice

namespace Script

inductive BinaryOperator where
  | bitOr
  | bitXor
  | bitAnd
  | eq
  | ne
  | lt
  | le
  | gt
  | ge
  | range
  | closedRange
  | add
  | sub
  | mul
  | div
  | rem
  | pow
  | shiftLeft
  | shiftRight
  deriving DecidableEq, Repr

inductive UnaryOperator where
  | negate
  | plus
  | not
  deriving DecidableEq, Repr

/-- A datum, or the fault that kept it from being computed. -/
abbrev Result := Except ScriptFault Datum

/-! ## Integers -/

/-- An integer in range, or the fault of the operation that left it. -/
def checked (operation : CheckedOperation) (n : Int) : Result :=
  match int64? n with
  | some n => .ok (.int n)
  | none => .error (.overflow operation)

/-- An exact quotient, or the float nearest to the quotient. -/
def divide (a b : Int64) : Datum :=
  if b ≠ 0 ∧ a.toInt.tmod b.toInt = 0 ∧ fitsInt64 (a.toInt.tdiv b.toInt) then
    .int (Int64.ofInt (a.toInt.tdiv b.toInt))
  else .float ((Binary64.ofInt a.toInt).div (Binary64.ofInt b.toInt))

/-- The remainder of the quotient that is truncated toward zero; a float when the quotient does not
exist in 64 bits. -/
def remainder (a b : Int64) : Datum :=
  if b ≠ 0 ∧ fitsInt64 (a.toInt.tdiv b.toInt) then .int (Int64.ofInt (a.toInt.tmod b.toInt))
  else .float ((Binary64.ofInt a.toInt).rem (Binary64.ofInt b.toInt))

/-- The greatest exponents of integers and of floats. -/
def intExponentMax : Int := 4294967295
def floatExponentMax : Int := 2147483647

/-- A power of an integer; bases whose powers stay small are told apart, so that no huge number is
computed. -/
def intPower (base exponent : Int) : Result :=
  if intExponentMax < exponent then .error .largeExponent
  else if exponent < 0 then .error .negativePower
  else if base.natAbs ≤ 1 then
    .ok (.int (Int64.ofInt (if exponent = 0 then 1
      else if base = -1 ∧ exponent % 2 = 0 then 1 else base)))
  else if 64 < exponent then .error (.overflow .exponential)
  else checked .exponential (Int.pow base exponent.toNat)

/-- Shifts by a negative amount go the other way; bits that leave the word are lost. -/
def shifted (n : Int64) (amount : Int) : Int64 :=
  if amount < 0 then
    if 63 < -amount then (if n < 0 then -1 else 0)
    else Int64.ofInt (n.toInt / twoTo (-amount).toNat)
  else if 63 < amount then 0
  else Int64.ofInt (n.toInt * twoTo amount.toNat)

def intOperation (op : BinaryOperator) (a b : Int64) : Result :=
  match op with
  | .add => checked .addition (a.toInt + b.toInt)
  | .sub => checked .subtraction (a.toInt - b.toInt)
  | .mul => checked .multiplication (a.toInt * b.toInt)
  | .div => .ok (divide a b)
  | .rem => .ok (remainder a b)
  | .pow => intPower a.toInt b.toInt
  | .shiftLeft => .ok (.int (shifted a b.toInt))
  | .shiftRight => .ok (.int (shifted a (-b.toInt)))
  | .bitAnd => .ok (.int (a &&& b))
  | .bitOr => .ok (.int (a ||| b))
  | .bitXor => .ok (.int (a ^^^ b))
  | .range => .ok (.range a b false)
  | .closedRange => .ok (.range a b true)
  | _ => .error .unknownFunction

/-! ## Floats -/

def floatOperation (op : BinaryOperator) (a b : Binary64) : Result :=
  match op with
  | .add => .ok (.float (a.add b))
  | .sub => .ok (.float (a.sub b))
  | .mul => .ok (.float (a.mul b))
  | .div => .ok (.float (a.div b))
  | .rem => .ok (.float (a.rem b))
  | .pow => .ok (.float (a.pow b))
  | _ => .error .unknownFunction

/-! ## Comparison -/

inductive Comparison where
  | less
  | equal
  | greater
  /-- One of them is a not-a-number. -/
  | unordered
  /-- Their kinds have nothing to do with each other. -/
  | unrelated
  deriving DecidableEq, Repr

def compareFloats (a b : Binary64) : Comparison :=
  if a.lt b then .less else if b.lt a then .greater else if a.same b then .equal else .unordered

def compareInts (a b : Int64) : Comparison :=
  if a < b then .less else if b < a then .greater else .equal

def compareTexts (a b : String) : Comparison :=
  if a < b then .less else if b < a then .greater else .equal

/-- The number that a text stands for: zero for blanks, and a not-a-number for what is none. -/
def numberOfText (s : String) : Binary64 :=
  let trimmed := trimText s
  if trimmed.isEmpty then .zero else (readDecimal trimmed).toOption.getD .nan

/-- How two data compare, if there is an order between their kinds. -/
def compareData? (a b : Datum) : Option Comparison :=
  match a, b with
  | .unit, .unit => some .equal
  | .bool a, .bool b => some (if a = b then .equal else if b then .less else .greater)
  | .int a, .int b => some (compareInts a b)
  | .float a, .float b => some (compareFloats a b)
  | .int a, .float b => some (compareFloats (.ofInt a.toInt) b)
  | .float a, .int b => some (compareFloats a (.ofInt b.toInt))
  | .text a, .text b => some (compareTexts a b)
  | .char a, .char b => some (compareTexts (.singleton a) (.singleton b))
  | .char a, .text b => some (compareTexts (.singleton a) b)
  | .text a, .char b => some (compareTexts a (.singleton b))
  | .text a, .int b => some (compareFloats (numberOfText a) (.ofInt b.toInt))
  | .int a, .text b => some (compareFloats (.ofInt a.toInt) (numberOfText b))
  | .text a, .float b => some (compareFloats (numberOfText a) b)
  | .float a, .text b => some (compareFloats a (numberOfText b))
  | .list _, .list _ => none
  | .map _, .map _ => none
  | .range .., .range .. => none
  | _, _ => some .unrelated

mutual

/-- The equality of data; lists and maps are equal item by item.  Numbers of which one is a float
are equal when they are near. -/
def Datum.same : Datum → Datum → Bool
  | .float a, .float b => a.near b
  | .float a, .int b => a.near (.ofInt b.toInt)
  | .int a, .float b => Binary64.near (.ofInt a.toInt) b
  | .list a, .list b => sameItems a b
  | .map a, .map b => sameEntries a b
  | .range a b c, .range d e f => decide (a = d ∧ b = e ∧ c = f)
  | a, b => compareData? a b = some .equal

def sameItems : List Datum → List Datum → Bool
  | [], [] => true
  | a :: as, b :: bs => a.same b && sameItems as bs
  | _, _ => false

def sameEntries : List (String × Datum) → List (String × Datum) → Bool
  | [], [] => true
  | (j, a) :: as, (k, b) :: bs => decide (j = k) && a.same b && sameEntries as bs
  | _, _ => false

end

def orderingHolds (op : BinaryOperator) (c : Comparison) : Bool :=
  match op with
  | .lt => c = .less
  | .le => c = .less || c = .equal
  | .gt => c = .greater
  | .ge => c = .greater || c = .equal
  | _ => false

/-! ## All operators -/

def join (a b : Datum) : Result := .ok (.text (a.spoken ++ b.spoken))

def removeText (a b : String) : Result :=
  .ok (.text (String.ofList (TextCut.remove a.toList b.toList)))

def isComparison : BinaryOperator → Bool
  | .eq => true
  | .ne => true
  | .lt => true
  | .le => true
  | .gt => true
  | .ge => true
  | _ => false

def compareOperation (op : BinaryOperator) (a b : Datum) : Result :=
  match op with
  | .eq => .ok (.bool (a.same b))
  | .ne => .ok (.bool (!a.same b))
  | _ =>
    match compareData? a b with
    | some c => .ok (.bool (orderingHolds op c))
    | none => .error .unknownFunction

def plainOperation (op : BinaryOperator) (a b : Datum) : Result :=
  match a, b with
  | .int a, .int b => intOperation op a b
  | .float a, .float b => floatOperation op a b
  | .int a, .float b => floatOperation op (.ofInt a.toInt) b
  | .float a, .int b =>
    if op = .pow then
      if floatExponentMax < b.toInt then .error .largeExponent
      else .ok (.float (a.powInt b.toInt))
    else floatOperation op a (.ofInt b.toInt)
  | .bool a, .bool b =>
    match op with
    | .bitAnd => .ok (.bool (a && b))
    | .bitOr => .ok (.bool (a || b))
    | .bitXor => .ok (.bool (a != b))
    | _ => .error .unknownFunction
  | a, b =>
    match op, a, b with
    | .add, .text _, _ => join a b
    | .add, _, .text _ => join a b
    | .add, .char _, .char _ => join a b
    | .sub, .text a, .text b => removeText a b
    | .sub, .text a, .char b => removeText a (.singleton b)
    | .add, .list a, .list b => .ok (.list (a ++ b))
    | .add, .map a, .map b => .ok (Datum.ofEntries (a ++ b))
    | _, _, _ => .error .unknownFunction

def BinaryOperator.apply (op : BinaryOperator) (a b : Datum) : Result :=
  if isComparison op then compareOperation op a b else plainOperation op a b

def UnaryOperator.apply (op : UnaryOperator) (a : Datum) : Result :=
  match op, a with
  | .negate, .int n => checked .negation (-n.toInt)
  | .negate, .float x => .ok (.float x.neg)
  | .plus, .int n => .ok (.int n)
  | .plus, .float x => .ok (.float x)
  | .not, .bool b => .ok (.bool (!b))
  | _, _ => .error .unknownFunction

/-- A datum is in a list, a key in a map, a text in a text, an integer in a range. -/
def isIn (item container : Datum) : Result :=
  match container, item with
  | .list items, item => .ok (.bool (items.any fun other => other.same item))
  | .map entries, .text key => .ok (.bool (entries.lookup key).isSome)
  | .text s, .text sought => .ok (.bool (TextCut.find? s.toList sought.toList).isSome)
  | .text s, .char c => .ok (.bool (s.toList.contains c))
  | .range first last closed, .int n =>
    .ok (.bool (decide (first ≤ n) && (if closed then decide (n ≤ last) else decide (n < last))))
  | _, _ => .error .unknownFunction

end Script

end Sluice
