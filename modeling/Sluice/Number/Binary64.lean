import Sluice.Number.Power
import Sluice.Number.Rounding

/-!
# Double-precision numbers

A `Binary64` is the 64-bit pattern of a double-precision number.  Every finite one is a whole
number of units of `2 ^ (-1074)`, so sums, products, quotients and remainders are computed exactly
on naturals and rounded once.  Order and equality read the pattern: with the sign apart, a larger
pattern is a larger number.
-/

set_option autoImplicit false

namespace Sluice

structure Binary64 where
  bits : UInt64
  deriving DecidableEq, Repr, Inhabited

namespace Binary64

/-- How many patterns share one scale: two to the 52nd. -/
def patternsPerScale : Nat := 4503599627370496

/-- The pattern of the sign alone: two to the 63rd. -/
def signPattern : Nat := 9223372036854775808

/-- The pattern of infinity without its sign: every finite number lies below it, every
not-a-number above it. -/
def infiniteMagnitude : Nat := 2047 * patternsPerScale

/-- One is `2 ^ 1074` units. -/
def unitsPerOne : Nat := twoTo 1074

def isNegative (x : Binary64) : Bool := decide (signPattern ≤ x.bits.toNat)

/-- The pattern without its sign. -/
def magnitude (x : Binary64) : Nat := x.bits.toNat % signPattern

def isNaN (x : Binary64) : Bool := decide (infiniteMagnitude < x.magnitude)

def isInfinite (x : Binary64) : Bool := decide (x.magnitude = infiniteMagnitude)

def isFinite (x : Binary64) : Bool := decide (x.magnitude < infiniteMagnitude)

def isZero (x : Binary64) : Bool := decide (x.magnitude = 0)

/-- The units that a pattern without sign stands for, also past the largest finite one. -/
def unitsOf (magnitude : Nat) : Nat :=
  let scale := magnitude / patternsPerScale
  let fraction := magnitude % patternsPerScale
  if scale = 0 then fraction else (patternsPerScale + fraction) * twoTo (scale - 1)

/-- The absolute value of a finite number, in units. -/
def units (x : Binary64) : Nat := unitsOf x.magnitude

/-- The value of a finite number, in units. -/
def signedUnits (x : Binary64) : Int := if x.isNegative then -(x.units : Int) else x.units

/-- The pattern nearest to `num / den` units; ties go to the even pattern, and what lies past the
largest finite number becomes infinity. -/
def magnitudeOf (num den : Nat) : Nat :=
  let whole := num / den
  let rounded :=
    if whole < 2 * patternsPerScale then roundQuotient num den
    else
      let shift := whole.log2 - 52
      shift * patternsPerScale + roundQuotient num (den * twoTo shift)
  min rounded infiniteMagnitude

def ofMagnitude (negative : Bool) (magnitude : Nat) : Binary64 :=
  ⟨UInt64.ofNat (if negative then magnitude + signPattern else magnitude)⟩

/-- The number nearest to `± num / den` units. -/
def ofUnits (negative : Bool) (num den : Nat) : Binary64 :=
  ofMagnitude negative (magnitudeOf num den)

def zero : Binary64 := ⟨0⟩
def nan : Binary64 := ofMagnitude false (infiniteMagnitude + patternsPerScale / 2)
def infinity (negative : Bool) : Binary64 := ofMagnitude negative infiniteMagnitude

def ofInt (n : Int) : Binary64 := ofUnits (decide (n < 0)) (n.natAbs * unitsPerOne) 1

/-- The number nearest to `± num / den`. -/
def ofQuotient (negative : Bool) (num den : Nat) : Binary64 :=
  ofUnits negative (num * unitsPerOne) den

/-- A number from a signed count of units; `zeroSign` is the sign of an empty count. -/
def ofSignedUnits (zeroSign : Bool) (n : Int) : Binary64 :=
  if n = 0 then ofMagnitude zeroSign 0 else ofUnits (decide (n < 0)) n.natAbs 1

def neg (x : Binary64) : Binary64 := ⟨x.bits ^^^ 0x8000000000000000⟩

def abs (x : Binary64) : Binary64 := ofMagnitude false x.magnitude

/-! ## Order -/

/-- The place of a number on the line; both zeros share one place. -/
def place (x : Binary64) : Int := if x.isNegative then -(x.magnitude : Int) else x.magnitude

/-- Neither operand is a not-a-number. -/
def comparable (x y : Binary64) : Bool := !x.isNaN && !y.isNaN

def lt (x y : Binary64) : Bool := comparable x y && decide (x.place < y.place)
def le (x y : Binary64) : Bool := comparable x y && decide (x.place ≤ y.place)
def same (x y : Binary64) : Bool := comparable x y && decide (x.place = y.place)

/-! ## Arithmetic -/

def add (x y : Binary64) : Binary64 :=
  if x.isNaN || y.isNaN then nan
  else if x.isInfinite then
    if y.isInfinite && x.isNegative != y.isNegative then nan else x
  else if y.isInfinite then y
  else ofSignedUnits (x.isNegative && y.isNegative) (x.signedUnits + y.signedUnits)

def sub (x y : Binary64) : Binary64 := if y.isNaN then nan else add x y.neg

def mul (x y : Binary64) : Binary64 :=
  let negative := x.isNegative != y.isNegative
  if x.isNaN || y.isNaN then nan
  else if x.isInfinite || y.isInfinite then
    if x.isZero || y.isZero then nan else infinity negative
  else ofUnits negative (x.units * y.units) unitsPerOne

def div (x y : Binary64) : Binary64 :=
  let negative := x.isNegative != y.isNegative
  if x.isNaN || y.isNaN then nan
  else if x.isInfinite then if y.isInfinite then nan else infinity negative
  else if y.isInfinite then ofMagnitude negative 0
  else if y.isZero then if x.isZero then nan else infinity negative
  else ofUnits negative (x.units * unitsPerOne) y.units

/-- The remainder of the division truncated toward zero; it has the sign of the dividend. -/
def rem (x y : Binary64) : Binary64 :=
  if x.isNaN || y.isNaN || x.isInfinite || y.isZero then nan
  else if y.isInfinite then x
  else ofUnits x.isNegative (x.units % y.units) 1

/-- Repeated squaring, the bits of the exponent taken from the lowest. -/
def powNat (x : Binary64) (exponent : Nat) : Binary64 :=
  go exponent exponent (ofInt 1) x
where
  go : Nat → Nat → Binary64 → Binary64 → Binary64
    | 0, _, product, _ => product
    | fuel + 1, n, product, square =>
      if n = 0 then product
      else
        let product := if n % 2 = 1 then mul product square else product
        if n / 2 = 0 then product else go fuel (n / 2) product (mul square square)

def powInt (x : Binary64) (exponent : Int) : Binary64 :=
  let power := powNat x exponent.natAbs
  if exponent < 0 then div (ofInt 1) power else power

/-- A real power, where no exact rule is at hand: the platform's function. -/
def pow (x y : Binary64) : Binary64 :=
  let power := Float.pow (Float.ofBits x.bits) (Float.ofBits y.bits)
  if power.isNaN then nan else ⟨power.toBits⟩

/-- The square root, where no exact rule is at hand: the platform's function. -/
def sqrt (x : Binary64) : Binary64 :=
  let root := Float.sqrt (Float.ofBits x.bits)
  if root.isNaN then nan else ⟨root.toBits⟩

/-! ## Nearness -/

/-- The distance from one to the next greater number. -/
def epsilon : Binary64 := ⟨0x3CB0000000000000⟩

/-- Two numbers are near when their difference, relative to the one with the greater square, is less
than the distance from one to the next number.  Where the squares have no order the second number
is taken for the greater, and to a greater number of zero everything is near. -/
def near (x y : Binary64) : Bool :=
  let greater := if lt (mul y y) (mul x x) then x else y
  greater.isZero || lt (div (sub x y) greater).abs epsilon

/-! ## Whole parts -/

def isWhole (x : Binary64) : Bool := x.isFinite && decide (x.units % unitsPerOne = 0)

/-- A number with the sign of another one and a whole absolute value; what is not finite stays. -/
def withWhole (x : Binary64) (whole : Nat) : Binary64 :=
  if x.isFinite then ofUnits x.isNegative (whole * unitsPerOne) 1 else x

/-- The whole part of the absolute value, and the next whole number unless it is whole. -/
def wholeBelow (x : Binary64) : Nat := x.units / unitsPerOne
def wholeAbove (x : Binary64) : Nat := (x.units + unitsPerOne - 1) / unitsPerOne

def truncate (x : Binary64) : Binary64 := x.withWhole x.wholeBelow

def floor (x : Binary64) : Binary64 :=
  x.withWhole (if x.isNegative then x.wholeAbove else x.wholeBelow)

def ceiling (x : Binary64) : Binary64 :=
  x.withWhole (if x.isNegative then x.wholeBelow else x.wholeAbove)

/-- The nearest whole number, a tie going away from zero. -/
def round (x : Binary64) : Binary64 :=
  x.withWhole ((2 * x.units + unitsPerOne) / (2 * unitsPerOne))

def fraction (x : Binary64) : Binary64 := x.sub x.truncate

/-- The greater and the lesser of two numbers; a not-a-number gives way to the other one. -/
def max (x y : Binary64) : Binary64 := if x.isNaN || x.lt y then y else x
def min (x y : Binary64) : Binary64 := if x.isNaN || y.lt x then y else x

/-- The integer that is left when the fractional part is dropped. -/
def truncatedInt (x : Binary64) : Int :=
  let whole := x.units / unitsPerOne
  if x.isNegative then -(whole : Int) else whole

end Binary64

end Sluice
