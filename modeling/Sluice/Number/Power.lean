/-!
# Powers of two and of ten
-/

set_option autoImplicit false

namespace Sluice

def twoTo (exponent : Nat) : Nat := Nat.pow 2 exponent

def tenTo (exponent : Nat) : Nat := Nat.pow 10 exponent

theorem twoTo_succ (exponent : Nat) : twoTo (exponent + 1) = twoTo exponent * 2 := rfl

theorem twoTo_pos (exponent : Nat) : 0 < twoTo exponent := Nat.two_pow_pos exponent

theorem twoTo_add (first second : Nat) : twoTo (first + second) = twoTo first * twoTo second :=
  Nat.pow_add 2 first second

theorem twoTo_dvd {least greatest : Nat} (le : least ≤ greatest) : twoTo least ∣ twoTo greatest :=
  Nat.pow_dvd_pow 2 le

theorem log2_twoTo (exponent : Nat) : (twoTo exponent).log2 = exponent := Nat.log2_two_pow

theorem log2_lt_of_lt_twoTo {n exponent : Nat} (positive : 0 < exponent)
    (below : n < twoTo exponent) : n.log2 < exponent := by
  by_cases zero : n = 0
  · simpa [zero] using positive
  · exact (Nat.log2_lt zero).mpr below

theorem tenTo_succ (exponent : Nat) : tenTo (exponent + 1) = tenTo exponent * 10 := rfl

end Sluice
