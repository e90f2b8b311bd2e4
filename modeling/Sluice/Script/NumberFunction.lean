import Sluice.Script.Operation

/-!
# Functions of numbers

The functions and properties of integers and floats, and the greater and lesser of two data.
-/

set_option autoImplicit false

namespace Sluice

namespace Script

def natDatum (n : Nat) : Datum := .int (Int64.ofNat n)

def intProperty? (name : String) (n : Int64) : Option Datum :=
  if name = "is_zero" then some (Datum.bool (n == 0))
  else if name = "is_odd" then some (Datum.bool (decide (n.toInt % 2 = 1)))
  else if name = "is_even" then some (Datum.bool (decide (n.toInt % 2 = 0)))
  else none

def floatProperty? (name : String) (x : Binary64) : Option Datum :=
  if name = "is_zero" then some (Datum.bool x.isZero)
  else if name = "is_nan" then some (Datum.bool x.isNaN)
  else if name = "is_finite" then some (Datum.bool x.isFinite)
  else if name = "is_infinite" then some (Datum.bool x.isInfinite)
  else if name = "floor" then some (.float x.floor)
  else if name = "ceiling" then some (.float x.ceiling)
  else if name = "round" then some (.float x.round)
  else if name = "int" then some (.float x.truncate)
  else if name = "fraction" then some (.float x.fraction)
  else none

def intFunction? (name : String) (n : Int64) : Option Datum :=
  if name = "to_float" then some (.float (Binary64.ofInt n.toInt))
  else if name = "sign" then some (.int (Int64.ofInt n.toInt.sign))
  else if name = "abs" ∧ n ≠ Int64.minValue then some (.int (if n < 0 then -n else n))
  else intProperty? name n

def floatFunction? (name : String) (x : Binary64) : Option Datum :=
  if name = "abs" then some (.float x.abs)
  else if name = "sqrt" then some (.float x.sqrt)
  else if name = "sign" ∧ !x.isNaN then
    some (.int (if x.isZero then 0 else if x.isNegative then -1 else 1))
  else if name = "to_int" ∧ x.isFinite ∧ fitsInt64 x.truncatedInt then
    some (.int (Int64.ofInt x.truncatedInt))
  else floatProperty? name x

/-- The greater or the lesser of two data; between a float and an integer it is a float. -/
def extreme? (greater : Bool) (a b : Datum) : Option Datum :=
  let float (x y : Binary64) : Datum := .float (if greater then x.max y else x.min y)
  match a, b with
  | .int a, .int b => some (.int (if greater then max a b else min a b))
  | .float a, .float b => some (float a b)
  | .int a, .float b => some (float (.ofInt a.toInt) b)
  | .float a, .int b => some (float a (.ofInt b.toInt))
  | .text a, .text b => some (.text (if (a < b) == greater then b else a))
  | .char a, .char b => some (.char (if (a < b) == greater then b else a))
  | _, _ => none

end Script

end Sluice
