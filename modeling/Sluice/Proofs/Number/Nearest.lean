import Mathlib.Algebra.Order.Field.Basic
import Mathlib.Algebra.Order.Ring.Abs
import Mathlib.Algebra.Order.Ring.Rat
import Mathlib.Algebra.Ring.Parity
import Mathlib.Tactic.FieldSimp
import Mathlib.Tactic.Linarith
import Mathlib.Tactic.Ring
import Sluice.Number.Rounding

/-!
# The nearest integer

The integer nearest to a rational, a tie going to the even one, is unique and grows with the
rational.  A rounded quotient is the nearest integer to the quotient.
-/

set_option autoImplicit false

namespace Sluice

/-! ## Nearest integers -/

structure NearestEven (v : ℚ) (n : ℤ) : Prop where
  nearest : ∀ m : ℤ, |v - n| ≤ |v - m|
  even : ∀ m : ℤ, m ≠ n → |v - m| = |v - n| → Even n

/-- The greater of two numbers is the nearer one from their middle on. -/
theorem nearer_greater {v a b : ℚ} (less : a < b) : |v - b| ≤ |v - a| ↔ a + b ≤ 2 * v := by
  have difference : (v - a) ^ 2 - (v - b) ^ 2 = (b - a) * (2 * v - (a + b)) := by ring
  have positive : 0 < b - a := sub_pos.mpr less
  rw [← sq_le_sq, ← sub_nonneg, difference, mul_nonneg_iff_of_pos_left positive, sub_nonneg]

theorem nearer_less {v a b : ℚ} (less : a < b) : |v - a| ≤ |v - b| ↔ 2 * v ≤ a + b := by
  have difference : (v - b) ^ 2 - (v - a) ^ 2 = (b - a) * (a + b - 2 * v) := by ring
  have positive : 0 < b - a := sub_pos.mpr less
  rw [← sq_le_sq, ← sub_nonneg, difference, mul_nonneg_iff_of_pos_left positive, sub_nonneg]

namespace NearestEven

variable {v w : ℚ} {n m : ℤ}

/-- Two nearest integers would be even, and an odd one between them would be nearer. -/
theorem not_lt (first : NearestEven v n) (second : NearestEven v m) : ¬ n < m := by
  intro less
  have order : (n : ℚ) < m := by exact_mod_cast less
  have below : 2 * v ≤ n + m := (nearer_less order).mp (first.nearest m)
  have above : n + m ≤ 2 * v := (nearer_greater order).mp (second.nearest n)
  have same : |v - n| = |v - m| := le_antisymm (first.nearest m) (second.nearest n)
  obtain ⟨k, rfl⟩ := first.even m (by omega) same.symm
  obtain ⟨l, rfl⟩ := second.even (k + k) (by omega) same
  have next : ((k + k : ℤ) : ℚ) < (k + k + 1 : ℤ) := by push_cast; linarith
  have odd := (nearer_less next).mp (first.nearest (k + k + 1))
  have apart : ((k + 1 : ℤ) : ℚ) ≤ l := by exact_mod_cast (by omega : k + 1 ≤ l)
  push_cast at below above odd apart
  linarith

theorem unique (first : NearestEven v n) (second : NearestEven v m) : n = m :=
  Int.le_antisymm (Int.not_lt.mp (second.not_lt first)) (Int.not_lt.mp (first.not_lt second))

theorem mono (first : NearestEven v n) (second : NearestEven w m) (le : v ≤ w) : n ≤ m := by
  by_contra notLe
  have less : (m : ℚ) < n := by exact_mod_cast Int.not_le.mp notLe
  have above : m + n ≤ 2 * v := (nearer_greater less).mp (first.nearest m)
  have below : 2 * w ≤ m + n := (nearer_less less).mp (second.nearest n)
  obtain rfl : v = w := by linarith
  exact notLe (first.unique second).le

theorem neg (near : NearestEven v n) : NearestEven (-v) (-n) := by
  have mirrored (m : ℤ) : |-v - m| = |v - (-m : ℤ)| := by
    rw [← abs_neg]
    push_cast
    ring_nf
  constructor
  · intro m
    rw [mirrored, mirrored, neg_neg]
    exact near.nearest (-m)
  · intro m other same
    rw [mirrored, mirrored, neg_neg] at same
    exact (near.even (-m) (by omega) same).neg

/-- An integer within one half is the nearest one; exactly one half off it must be even. -/
theorem of_half (within : 2 * |v - n| ≤ 1) (tie : 2 * |v - n| = 1 → Even n) :
    NearestEven v n := by
  have apart {m : ℤ} (other : m ≠ n) : 1 ≤ |v - n| + |v - m| := by
    have one : (1 : ℚ) ≤ |(m : ℚ) - n| := by
      exact_mod_cast Int.one_le_abs (sub_ne_zero.mpr other)
    have split : (m : ℚ) - n = (v - n) - (v - m) := by ring
    rw [split] at one
    exact one.trans (abs_sub _ _)
  constructor
  · intro m
    by_cases same : m = n
    · rw [same]
    · linarith [apart same]
  · intro m other equal
    apply tie
    linarith [apart other]

theorem of_int (n : ℤ) : NearestEven n n := by
  apply of_half
  · simp
  · simp

end NearestEven

/-! ## Rounded quotients -/

theorem nearestEven_roundQuotient {num den : ℕ} (positive : 0 < den) :
    NearestEven ((num : ℚ) / den) (roundQuotient num den) := by
  obtain ⟨above, below, even⟩ := roundQuotient_within num den positive
  generalize roundQuotient num den = rounded at *
  have scale : (0 : ℚ) < den := by exact_mod_cast positive
  have off : 2 * |(num : ℚ) / den - (rounded : ℤ)| =
      |2 * (num : ℚ) - 2 * (den * rounded)| / den := by
    have factor : 2 * (num : ℚ) - 2 * (den * rounded) =
        2 * den * (num / den - (rounded : ℤ)) := by
      push_cast
      field_simp
    have twice : 0 < 2 * (den : ℚ) := by linarith
    rw [factor, abs_mul, abs_of_pos twice]
    field_simp
  apply NearestEven.of_half
  · have upper : (2 * (den * rounded) : ℚ) ≤ 2 * num + den := by exact_mod_cast above
    have lower : (2 * num : ℚ) ≤ 2 * (den * rounded) + den := by exact_mod_cast below
    rw [off, div_le_one scale, abs_le]
    constructor <;> linarith
  · intro half
    rw [off, div_eq_one_iff_eq scale.ne', abs_eq scale.le] at half
    have tie : 2 * num + den = 2 * (den * rounded) ∨ 2 * num = 2 * (den * rounded) + den := by
      rcases half with half | half
      · right
        have sum : (2 * num : ℚ) = 2 * (den * rounded) + den := by linarith
        exact_mod_cast sum
      · left
        have sum : (2 * num + den : ℚ) = 2 * (den * rounded) := by linarith
        exact_mod_cast sum
    exact_mod_cast Nat.even_iff.mpr (even tie)

end Sluice
