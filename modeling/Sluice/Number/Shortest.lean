import Sluice.Number.Binary64

/-!
# The fewest digits that read back

The reals that round to a finite nonzero number form an interval around it, whose ends belong to it
exactly when the pattern is even.  Among the decimal grids of one, two, three … digits the first
one with a point in the interval gives the digits; of two points the nearer one wins, and of two
equally near the upper one.
-/

set_option autoImplicit false

namespace Sluice

/-- A positive decimal `0.d₁d₂… · 10 ^ point`, where `digits` is the number `d₁d₂…`. -/
structure DecimalDigits where
  digits : Nat
  point : Int
  deriving DecidableEq, Repr

namespace DecimalDigits

/-- Decimal digits of a natural, the most significant first. -/
def digitChars (n : Nat) : List Char := Nat.toDigits 10 n

end DecimalDigits

namespace Binary64

/-- Twice `2 ^ 1074`: the neighbours' midpoints are whole numbers of half units. -/
def halfUnitsPerOne : Nat := twoTo 1075

/-- The halfway points around a pattern, and the number itself, in half units. -/
def halfUnitsAround (magnitude : Nat) : Nat × Nat × Nat :=
  let exact := unitsOf magnitude
  let below := if magnitude = 0 then 0 else unitsOf (magnitude - 1)
  (below + exact, 2 * exact, exact + unitsOf (magnitude + 1))

/-- The power of ten just above `num / den`, found by scaling a quotient below one upward. -/
def decimalPoint (num den : Nat) : Int :=
  if den ≤ num then ((Nat.toDigits 10 (num / den)).length : Int)
  else scaleUp 400 (10 * num) 0
where
  scaleUp : Nat → Nat → Int → Int
    | 0, _, point => point
    | fuel + 1, scaled, point =>
      if den ≤ scaled then point else scaleUp fuel (10 * scaled) (point - 1)

/-- The point of the grid `10 ^ (point - count)` that lies in the interval and is nearest to the
number, if the grid has one. -/
def gridPoint? (magnitude : Nat) (point : Int) (count : Nat) : Option Nat :=
  let (low, middle, high) := halfUnitsAround magnitude
  let power := point - count
  -- Multiples of the grid step are compared with half units on a common scale.
  let step := halfUnitsPerOne * (if 0 ≤ power then tenTo power.toNat else 1)
  let scale := if 0 ≤ power then 1 else tenTo (-power).toNat
  let floor := middle * scale / step
  let inside (n : Nat) : Bool :=
    if magnitude % 2 = 0 then decide (low * scale ≤ n * step ∧ n * step ≤ high * scale)
    else decide (low * scale < n * step ∧ n * step < high * scale)
  match inside floor, inside (floor + 1) with
  | true, true =>
    if 2 * (middle * scale - floor * step) < step then some floor else some (floor + 1)
  | true, false => some floor
  | false, true => some (floor + 1)
  | false, false => none

/-- Drops the zeros at the end of a digit number, at most `fuel` of them. -/
def dropTrailingZeros : Nat → Nat → Nat
  | 0, n => n
  | fuel + 1, n => if n ≠ 0 ∧ n % 10 = 0 then dropTrailingZeros fuel (n / 10) else n

/-- The fewest digits that read back as the number; `none` for zero and for what is not finite. -/
def shortestDigits? (x : Binary64) : Option DecimalDigits :=
  if x.isZero || !x.isFinite then none
  else
    let (_, middle, _) := halfUnitsAround x.magnitude
    let point := decimalPoint middle halfUnitsPerOne
    (search x.magnitude point 18 1).map fun (count, digits) =>
      -- A point one past the last digit of its grid has one digit more before the point.
      let length := (Nat.toDigits 10 digits).length
      ⟨dropTrailingZeros 20 digits, point + (length : Int) - count⟩
where
  search (magnitude : Nat) (point : Int) : Nat → Nat → Option (Nat × Nat)
    | 0, _ => none
    | fuel + 1, count =>
      match gridPoint? magnitude point count with
      | some digits => some (count, digits)
      | none => search magnitude point fuel (count + 1)

end Binary64

end Sluice
