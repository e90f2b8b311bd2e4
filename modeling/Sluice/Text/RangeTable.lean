/-!
# Tables of characters

A set of code points, written as lines of hexadecimal numbers and ranges such as `41-5A 5F`, in
ascending order.  Membership is a binary search.
-/

set_option autoImplicit false

namespace Sluice

structure RangeTable where
  ranges : Array (Nat × Nat)
  deriving Inhabited

namespace RangeTable

def hexDigit (c : Char) : Nat :=
  if c.isDigit then c.toNat - '0'.toNat else c.toNat - 'A'.toNat + 10

/-- The state of the reader: the ranges so far, the first number of an open range, the number being
read, and whether a number has begun. -/
structure Scan where
  ranges : Array (Nat × Nat)
  first? : Option Nat
  number : Nat
  started : Bool

def Scan.close (s : Scan) : Scan :=
  if s.started then ⟨s.ranges.push (s.first?.getD s.number, s.number), none, 0, false⟩ else s

def Scan.step (s : Scan) (c : Char) : Scan :=
  if c = ' ' then s.close
  else if c = '-' then ⟨s.ranges, some s.number, 0, false⟩
  else ⟨s.ranges, s.first?, 16 * s.number + hexDigit c, true⟩

def Scan.line (s : Scan) (text : String) : Scan := (text.toList.foldl Scan.step s).close

def ofLines (lines : List String) : RangeTable :=
  ⟨(lines.foldl Scan.line ⟨#[], none, 0, false⟩).ranges⟩

/-- Narrows the window in which the range of `n` can lie, one bisection per unit of fuel. -/
def search (table : RangeTable) (n : Nat) : Nat → Nat → Nat → Bool
  | 0, _, _ => false
  | fuel + 1, low, high =>
    if high ≤ low then false
    else
      let middle := (low + high) / 2
      match table.ranges[middle]? with
      | none => false
      | some (first, last) =>
        if n < first then table.search n fuel low middle
        else if last < n then table.search n fuel (middle + 1) high
        else true

def contains (table : RangeTable) (n : Nat) : Bool :=
  table.search n (table.ranges.size + 1) 0 table.ranges.size

end RangeTable

end Sluice
