import Mathlib.Algebra.Order.Field.Basic
import Mathlib.Algebra.Order.Ring.Rat
import Mathlib.Order.Monotone.Basic
import Mathlib.Tactic.FieldSimp
import Mathlib.Tactic.Ring
import Sluice.Number.Binary64
import Sluice.Proofs.Number.Reading

/-!
# What numbers are exactly

A finite double-precision number is the rational of its sign, significand and exponent.  These
rationals are ordered as the numbers are, and the integers of at most 53 bits are among them.
-/

set_option autoImplicit false

namespace Sluice

/-! ## The rational of a finite number -/

theorem two_zpow_mul_twoTo (s k : ℕ) : (2 : ℚ) ^ ((s : ℤ) - k) * twoTo k = twoTo s := by
  have power (n : ℕ) : (twoTo n : ℚ) = 2 ^ (n : ℤ) := by
    rw [zpow_natCast]
    exact Nat.cast_pow 2 n
  rw [power, power, ← zpow_add₀ two_ne_zero, sub_add_cancel]

namespace Binary64

/-- The exponent of a finite number; the two lowest scales share one. -/
def exponent (x : Binary64) : ℤ := (x.magnitude / patternsPerScale - 1 : ℕ) - (1022 : ℕ)

/-- The significand of a finite number: one and a fraction, in the lowest scale the fraction
alone. -/
def significand (x : Binary64) : ℚ :=
  (if x.magnitude / patternsPerScale = 0 then 0 else 1) +
    (x.magnitude % patternsPerScale : ℕ) / patternsPerScale

def value (x : Binary64) : ℚ :=
  (if x.isNegative then -1 else 1) * x.significand * 2 ^ x.exponent

theorem unitsPerOne_pos : 0 < unitsPerOne := twoTo_pos 1074

theorem unitsPerOne_eq : unitsPerOne = twoTo 1022 * patternsPerScale := by
  have scale : patternsPerScale = twoTo 52 := rfl
  rw [scale, ← twoTo_add, unitsPerOne]

theorem units_eq (x : Binary64) :
    (x.units : ℚ) = x.significand * 2 ^ x.exponent * unitsPerOne := by
  have scaled : (2 : ℚ) ^ x.exponent * unitsPerOne =
      twoTo (x.magnitude / patternsPerScale - 1) * patternsPerScale := by
    rw [unitsPerOne_eq, Nat.cast_mul, ← mul_assoc, exponent, two_zpow_mul_twoTo]
  have nonzero : (patternsPerScale : ℚ) ≠ 0 := by norm_num [patternsPerScale]
  rw [mul_assoc, scaled, units, unitsOf, significand]
  by_cases lowest : x.magnitude / patternsPerScale = 0
  · simp only [lowest, if_true]
    field_simp
    simp [twoTo]
  · simp only [lowest, if_false]
    push_cast
    field_simp

theorem value_eq (x : Binary64) : x.value = x.signedUnits / unitsPerOne := by
  have positive : (unitsPerOne : ℚ) ≠ 0 := by exact_mod_cast unitsPerOne_pos.ne'
  have magnitude := units_eq x
  rw [eq_div_iff positive, signedUnits, value]
  cases x.isNegative
  all_goals
    simp only [if_true, Bool.false_eq_true, if_false]
    push_cast
    rw [magnitude]
    ring

/-! ## Order -/

theorem unitsOf_lt_succ (k : ℕ) : unitsOf k < unitsOf (k + 1) := by
  have small : k % patternsPerScale < patternsPerScale := Nat.mod_lt k (by decide)
  by_cases last : k % patternsPerScale + 1 = patternsPerScale
  · have scale : (k + 1) / patternsPerScale = k / patternsPerScale + 1 := by
      simp only [patternsPerScale] at last ⊢
      omega
    have fraction : (k + 1) % patternsPerScale = 0 := by
      simp only [patternsPerScale] at last ⊢
      omega
    simp only [unitsOf, scale, fraction, Nat.add_one_ne_zero, if_false, Nat.add_sub_cancel]
    cases k / patternsPerScale with
    | zero =>
        simp [twoTo, small]
    | succ s =>
        simp only [Nat.add_one_ne_zero, if_false, Nat.add_sub_cancel, twoTo_succ]
        rw [Nat.add_zero, Nat.mul_comm (twoTo s), ← Nat.mul_assoc]
        apply Nat.mul_lt_mul_of_pos_right _ (twoTo_pos s)
        omega
  · have scale : (k + 1) / patternsPerScale = k / patternsPerScale := by
      simp only [patternsPerScale] at last ⊢
      omega
    have fraction : (k + 1) % patternsPerScale = k % patternsPerScale + 1 := by
      simp only [patternsPerScale] at last ⊢
      omega
    simp only [unitsOf, scale, fraction]
    split
    · exact Nat.lt_succ_self _
    · apply Nat.mul_lt_mul_of_pos_right _ (twoTo_pos _)
      omega

theorem unitsOf_strictMono : StrictMono unitsOf := strictMono_nat_of_lt_succ unitsOf_lt_succ

/-- A growing function on naturals that keeps zero can be carried to the integers. -/
theorem signed_le_signed_iff {f : ℕ → ℕ} (grows : StrictMono f) (zero : f 0 = 0) (a b : Bool)
    (m n : ℕ) : signed a (f m) ≤ signed b (f n) ↔ signed a m ≤ signed b n := by
  have le := grows.le_iff_le (a := m) (b := n)
  have ge := grows.le_iff_le (a := n) (b := m)
  have first := grows.le_iff_le (a := m) (b := 0)
  have second := grows.le_iff_le (a := n) (b := 0)
  rw [zero] at first second
  cases a <;> cases b <;> simp only [signed, if_true, Bool.false_eq_true, if_false] <;> omega

theorem value_le_value_iff (x y : Binary64) : x.value ≤ y.value ↔ x.place ≤ y.place := by
  have positive : (0 : ℚ) < unitsPerOne := by exact_mod_cast unitsPerOne_pos
  rw [value_eq, value_eq, div_le_div_iff_of_pos_right positive, Int.cast_le]
  exact signed_le_signed_iff unitsOf_strictMono rfl _ _ _ _

/-! ## Integers -/

theorem unitsOf_low {m : ℕ} (low : m < 2 * patternsPerScale) : unitsOf m = m := by
  have exact := Nat.div_add_mod m patternsPerScale
  have scale : m / patternsPerScale < 2 := Nat.div_lt_of_lt_mul (by rwa [Nat.mul_comm])
  rw [unitsOf]
  generalize m / patternsPerScale = s at *
  match s with
  | 0 => simpa using exact
  | 1 => simpa [twoTo] using exact
  | s + 2 => omega

/-- The patterns of one scale stand for multiples of one power of two. -/
theorem unitsOf_scale (s : ℕ) {n : ℕ} (least : patternsPerScale ≤ n)
    (greatest : n < 2 * patternsPerScale) : unitsOf (s * patternsPerScale + n) = n * twoTo s := by
  have scale : (s * patternsPerScale + n) / patternsPerScale = s + 1 := by
    simp only [patternsPerScale] at *
    omega
  have fraction : (s * patternsPerScale + n) % patternsPerScale = n - patternsPerScale := by
    simp only [patternsPerScale] at *
    omega
  simp only [unitsOf, scale, fraction, Nat.add_one_ne_zero, if_false, Nat.add_sub_cancel]
  rw [Nat.add_sub_cancel' least]

/-- A count of which only the first 53 binary digits matter, cut into these digits and a power. -/
theorem exists_digits {num : ℕ} (few : twoTo (num.log2 - 52) ∣ num)
    (high : 2 * patternsPerScale ≤ num) :
    ∃ n, num = twoTo (num.log2 - 52) * n ∧ patternsPerScale ≤ n ∧ n < 2 * patternsPerScale := by
  have nonzero : num ≠ 0 := by
    intro zero
    exact absurd (zero ▸ high) (by decide)
  have log : 53 ≤ num.log2 := (Nat.le_log2 nonzero).mpr high
  have below : twoTo num.log2 ≤ num := Nat.log2_self_le nonzero
  have above : num < twoTo (num.log2 + 1) := Nat.lt_log2_self
  obtain ⟨n, whole⟩ := few
  have digits : num.log2 = num.log2 - 52 + 52 := by omega
  generalize num.log2 - 52 = s at *
  have split : twoTo (s + 52) = twoTo s * patternsPerScale := twoTo_add s 52
  refine ⟨n, whole, ?_, ?_⟩
  · rw [digits, split, whole] at below
    exact Nat.le_of_mul_le_mul_left below (twoTo_pos s)
  · rw [digits, twoTo_succ, split, whole, Nat.mul_assoc, Nat.mul_comm patternsPerScale] at above
    exact Nat.lt_of_mul_lt_mul_left above

/-- A count of units is kept if no more than 53 of its binary digits matter and it is in range. -/
theorem units_kept {num : ℕ} (few : twoTo (num.log2 - 52) ∣ num) (bounded : num.log2 ≤ 2097) :
    magnitudeOf num 1 < infiniteMagnitude ∧ unitsOf (magnitudeOf num 1) = num := by
  simp only [magnitudeOf, Nat.div_one, Nat.one_mul]
  split
  case isTrue low =>
    have below : num < infiniteMagnitude := Nat.lt_trans low (by decide)
    rw [roundQuotient_one, Nat.min_eq_left below.le]
    exact ⟨below, unitsOf_low low⟩
  case isFalse high =>
    obtain ⟨n, whole, least, greatest⟩ := exists_digits few (Nat.not_lt.mp high)
    have scale : num.log2 - 52 ≤ 2045 := by omega
    generalize num.log2 - 52 = s at *
    have below : s * patternsPerScale + n < infiniteMagnitude := by
      simp only [infiniteMagnitude, patternsPerScale] at greatest ⊢
      omega
    rw [whole, roundQuotient_mul n (twoTo_pos s), Nat.min_eq_left below.le]
    refine ⟨below, ?_⟩
    rw [unitsOf_scale s least greatest, Nat.mul_comm]

/-- A whole number of units that is at most `2 ^ 53` ones is kept. -/
theorem ones_kept {count : ℕ} (small : count ≤ twoTo 53) :
    magnitudeOf (count * unitsPerOne) 1 < infiniteMagnitude ∧
      unitsOf (magnitudeOf (count * unitsPerOne) 1) = count * unitsPerOne := by
  have limit : twoTo 53 * unitsPerOne = twoTo 1127 := by
    rw [unitsPerOne, ← twoTo_add]
  rcases Nat.lt_or_eq_of_le small with less | rfl
  · have below : count * unitsPerOne < twoTo 1127 := by
      rw [← limit]
      exact Nat.mul_lt_mul_of_pos_right less unitsPerOne_pos
    have log : (count * unitsPerOne).log2 < 1127 := log2_lt_of_lt_twoTo (by decide) below
    apply units_kept _ (by omega)
    have few : twoTo ((count * unitsPerOne).log2 - 52) ∣ unitsPerOne := twoTo_dvd (by omega)
    exact few.mul_left count
  · rw [limit]
    apply units_kept
    · rw [log2_twoTo]
      exact twoTo_dvd (by decide)
    · rw [log2_twoTo]
      decide

theorem toNat_ofMagnitude (negative : Bool) {m : ℕ} (inRange : m < signPattern) :
    (ofMagnitude negative m).bits.toNat = if negative then m + signPattern else m := by
  apply UInt64.toNat_ofNat_of_lt'
  simp only [signPattern, UInt64.size] at *
  split <;> omega

theorem magnitude_ofMagnitude (negative : Bool) {m : ℕ} (inRange : m < signPattern) :
    (ofMagnitude negative m).magnitude = m := by
  rw [magnitude, toNat_ofMagnitude negative inRange]
  split
  · rw [Nat.add_mod_right, Nat.mod_eq_of_lt inRange]
  · exact Nat.mod_eq_of_lt inRange

theorem isNegative_ofMagnitude (negative : Bool) {m : ℕ} (inRange : m < signPattern) :
    (ofMagnitude negative m).isNegative = negative := by
  rw [isNegative, toNat_ofMagnitude negative inRange]
  cases negative <;> simp [inRange]

/-- An integer of at most 53 bits is a number. -/
theorem value_ofInt {n : ℤ} (small : n.natAbs ≤ twoTo 53) :
    (ofInt n).isFinite = true ∧ (ofInt n).value = n := by
  obtain ⟨finite, kept⟩ := ones_kept small
  have inRange := Nat.lt_trans finite (by decide : infiniteMagnitude < signPattern)
  have positive : (unitsPerOne : ℚ) ≠ 0 := by exact_mod_cast unitsPerOne_pos.ne'
  rw [isFinite, value_eq, signedUnits, units, ofInt, ofUnits, magnitude_ofMagnitude _ inRange,
    isNegative_ofMagnitude _ inRange, kept, div_eq_iff positive]
  refine ⟨decide_eq_true finite, ?_⟩
  by_cases negative : n < 0
  · have opposite : (n.natAbs : ℤ) = -n := by omega
    rw [if_pos (decide_eq_true negative), Nat.cast_mul, opposite]
    push_cast
    ring
  · have same : (n.natAbs : ℤ) = n := by omega
    rw [if_neg (by simpa using negative), Nat.cast_mul, same]
    push_cast
    ring

end Binary64

end Sluice
