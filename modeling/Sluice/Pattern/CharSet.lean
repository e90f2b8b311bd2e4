import Sluice.Text.LetterCase
import Sluice.Text.PropertyTable
import Sluice.Text.Word

/-!
# Sets of characters

The sets that a pattern can name: ranges, Unicode properties, and their combinations.  Membership
is decided on code points.
-/

set_option autoImplicit false

namespace Sluice

namespace Pattern

inductive CharSet where
  | range (first last : Nat)
  | table (table : RangeTable)
  | none
  | union (left right : CharSet)
  | intersection (left right : CharSet)
  | difference (left right : CharSet)
  | symmetricDifference (left right : CharSet)
  | complement (set : CharSet)
  /-- Every character that differs from a member in case only. -/
  | anyCase (set : CharSet)
  /-- Every ASCII letter that differs from a member in case only, and the members. -/
  | anyAsciiCase (set : CharSet)
  deriving Inhabited

namespace CharSet

/-- The ASCII letter that differs from a code point in case, or the code point itself. -/
def swapAsciiCase (n : Nat) : Nat :=
  if 0x41 ≤ n ∧ n ≤ 0x5A then n + 0x20 else if 0x61 ≤ n ∧ n ≤ 0x7A then n - 0x20 else n

def contains : CharSet → Nat → Bool
  | range first last, n => decide (first ≤ n ∧ n ≤ last)
  | table t, n => t.contains n
  | none, _ => false
  | union a b, n => a.contains n || b.contains n
  | intersection a b, n => a.contains n && b.contains n
  | difference a b, n => a.contains n && !b.contains n
  | symmetricDifference a b, n => a.contains n != b.contains n
  | complement a, n => !a.contains n
  | anyCase a, n => (caseOrbit n).any a.contains
  | anyAsciiCase a, n => a.contains n || a.contains (swapAsciiCase n)

def single (n : Nat) : CharSet := range n n

def ofRanges (ranges : List (Nat × Nat)) : CharSet :=
  ranges.foldr (fun r set => union (range r.1 r.2) set) none

def any : CharSet := range 0 0x10FFFF

def unionOf (sets : List CharSet) : CharSet := sets.foldr union none

/-- The set has no byte beyond ASCII, when its members are read as bytes. -/
def isAscii (set : CharSet) : Bool := (List.range 128).all fun n => !set.contains (n + 128)

/-- A measure of how many ranges the set is made of. -/
def weight : CharSet → Nat
  | range _ last => if last < 128 then 1 else 4
  | table t => 1 + t.ranges.size
  | none => 1
  | union a b => a.weight + b.weight
  | intersection a b => a.weight + b.weight
  | difference a b => a.weight + b.weight
  | symmetricDifference a b => a.weight + b.weight
  | complement a => a.weight + 4
  | anyCase a => 2 * a.weight
  | anyAsciiCase a => 2 * a.weight

/-! ## Classes by letter -/

def asciiDigit : CharSet := range 0x30 0x39
def asciiBlank : CharSet := union (range 9 13) (single 0x20)
def asciiWord : CharSet := ofRanges [(0x30, 0x39), (0x41, 0x5A), (0x5F, 0x5F), (0x61, 0x7A)]

def blank : CharSet :=
  ofRanges [(9, 13), (0x20, 0x20), (0x85, 0x85), (0xA0, 0xA0), (0x1680, 0x1680), (0x2000, 0x200A),
    (0x2028, 0x2029), (0x202F, 0x202F), (0x205F, 0x205F), (0x3000, 0x3000)]

def digit : CharSet := table decimalDigitTable
def word : CharSet := table wordTable

/-- The classes that are written as `[:name:]`. -/
def asciiClass? (name : String) : Option CharSet :=
  [("alnum", [(0x30, 0x39), (0x41, 0x5A), (0x61, 0x7A)]),
    ("alpha", [(0x41, 0x5A), (0x61, 0x7A)]),
    ("ascii", [(0, 0x7F)]),
    ("blank", [(9, 9), (0x20, 0x20)]),
    ("cntrl", [(0, 0x1F), (0x7F, 0x7F)]),
    ("digit", [(0x30, 0x39)]),
    ("graph", [(0x21, 0x7E)]),
    ("lower", [(0x61, 0x7A)]),
    ("print", [(0x20, 0x7E)]),
    ("punct", [(0x21, 0x2F), (0x3A, 0x40), (0x5B, 0x60), (0x7B, 0x7E)]),
    ("space", [(9, 13), (0x20, 0x20)]),
    ("upper", [(0x41, 0x5A)]),
    ("word", [(0x30, 0x39), (0x41, 0x5A), (0x5F, 0x5F), (0x61, 0x7A)]),
    ("xdigit", [(0x30, 0x39), (0x41, 0x46), (0x61, 0x66)])].lookup name |>.map ofRanges

end CharSet

end Pattern

end Sluice
