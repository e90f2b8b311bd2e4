import Sluice.Comparison
import Sluice.Proofs.Number.Exact
import Sluice.Proofs.Number.Nearest

/-!
# Floats as integers

A float that is compared with an integer is written without a fraction, and the text is read as an
integer.  What comes out is the nearest integer to the float if it is in range, and zero otherwise.
-/

set_option autoImplicit false

namespace Sluice

/-- The integer that a float comes to: the nearest one, or zero if that is out of range or the float
is not a finite number. -/
inductive NarrowsTo (x : Binary64) : Int64 → Prop where
  | nearest (r : Int64) (finite : x.isFinite = true) (near : NearestEven x.value r.toInt) :
      NarrowsTo x r
  | outside (n : ℤ) (finite : x.isFinite = true) (near : NearestEven x.value n)
      (out : n < -2 ^ 63 ∨ 2 ^ 63 - 1 < n) : NarrowsTo x 0
  | unbounded (special : x.isNaN = true ∨ x.isInfinite = true) : NarrowsTo x 0

namespace Binary64

theorem isFinite_iff (x : Binary64) :
    x.isFinite = false ↔ x.isNaN = true ∨ x.isInfinite = true := by
  simp only [isFinite, isNaN, isInfinite, decide_eq_true_eq, decide_eq_false_iff_not]
  omega

def nearest (x : Binary64) : ℤ := signed x.isNegative (roundQuotient x.units unitsPerOne)

theorem nearestEven_nearest (x : Binary64) : NearestEven x.value x.nearest := by
  have rounded := @nearestEven_roundQuotient x.units _ unitsPerOne_pos
  rw [value_eq, signedUnits, nearest]
  cases x.isNegative with
  | true =>
      rw [if_pos rfl, Int.cast_neg, Int.cast_natCast, neg_div]
      exact rounded.neg
  | false =>
      rw [if_neg Bool.false_ne_true, Int.cast_natCast]
      exact rounded

/-! ## The text without a fraction -/

theorem toList_wholeText {x : Binary64} (finite : x.isFinite = true) :
    x.wholeText.toList =
      signChars x.isNegative ++ Nat.toDigits 10 (roundQuotient x.units unitsPerOne) := by
  have below : x.magnitude < infiniteMagnitude := of_decide_eq_true finite
  have number : x.isNaN = false := decide_eq_false (by omega)
  have bounded : x.isInfinite = false := decide_eq_false (by omega)
  simp [wholeText, number, bounded, signChars]

theorem wholeText_special {x : Binary64} (special : x.isNaN = true ∨ x.isInfinite = true) :
    x.wholeText ∈ ["NaN", "inf", "-inf"] := by
  rw [wholeText]
  cases number : x.isNaN with
  | true => simp
  | false =>
      have bounded : x.isInfinite = true := by simpa [number] using special
      rw [bounded]
      cases x.isNegative <;> simp

theorem readIntOrZero_wholeText {x : Binary64} (finite : x.isFinite = true) :
    readIntOrZero x.wholeText = if fitsInt64 x.nearest then Int64.ofInt x.nearest else 0 := by
  rw [readIntOrZero, readInt_digits (toList_wholeText finite), ← nearest]
  split <;> rfl

theorem narrowsTo_wholeText (x : Binary64) : NarrowsTo x (readIntOrZero x.wholeText) := by
  cases finite : x.isFinite with
  | true =>
      have near := x.nearestEven_nearest
      rw [readIntOrZero_wholeText finite]
      split
      case isTrue fits =>
        have range : int64Min ≤ x.nearest ∧ x.nearest ≤ int64Max := of_decide_eq_true fits
        have kept : (Int64.ofInt x.nearest).toInt = x.nearest :=
          Int64.toInt_ofInt_of_le range.1 (Int.lt_add_one_of_le range.2)
        exact .nearest _ finite (by rwa [kept])
      case isFalse unfit =>
        have range : ¬ (int64Min ≤ x.nearest ∧ x.nearest ≤ int64Max) := by
          simpa [fitsInt64] using unfit
        refine .outside _ finite near ?_
        simp only [int64Min, int64Max] at range
        omega
  | false =>
      have special := x.isFinite_iff.mp finite
      have unreadable : ∀ text ∈ ["NaN", "inf", "-inf"], readIntOrZero text = 0 := by decide
      rw [unreadable _ (wholeText_special special)]
      exact .unbounded special

end Binary64

namespace NarrowsTo

variable {x : Binary64} {r s : Int64}

theorem eq_nearest (narrows : NarrowsTo x s) (finite : x.isFinite = true)
    (near : NearestEven x.value r.toInt) : s = r := by
  cases narrows with
  | nearest s _ other => exact Int64.toInt_inj.mp (other.unique near)
  | outside n _ other out =>
      have same := other.unique near
      have least := r.le_toInt
      have greatest := r.toInt_lt
      omega
  | unbounded special =>
      rw [x.isFinite_iff.mpr special] at finite
      cases finite

theorem unique (first : NarrowsTo x r) (second : NarrowsTo x s) : r = s := by
  cases first with
  | nearest r finite near => exact (second.eq_nearest finite near).symm
  | outside n finite near out =>
      have narrows : NarrowsTo x 0 := .outside n finite near out
      cases second with
      | nearest s _ other => exact narrows.eq_nearest finite other
      | outside => rfl
      | unbounded => rfl
  | unbounded special =>
      have narrows : NarrowsTo x 0 := .unbounded special
      cases second with
      | nearest s finite other => exact narrows.eq_nearest finite other
      | outside => rfl
      | unbounded => rfl

end NarrowsTo

theorem coerceInt_float_iff (x : Binary64) (r : Int64) :
    (Value.float x).coerceInt = .ok r ↔ NarrowsTo x r := by
  have narrows := x.narrowsTo_wholeText
  constructor
  · intro coerced
    cases coerced
    exact narrows
  · intro other
    rw [Value.coerceInt, narrows.unique other]

/-! ## Order and exact integers -/

/-- Greater numbers come to greater integers, if there are integers for them. -/
theorem narrowed_le {x y : Binary64} {r s : Int64} (le : x.le y = true)
    (low : NearestEven x.value r.toInt) (high : NearestEven y.value s.toInt) : r ≤ s := by
  have placed : x.place ≤ y.place := by
    simp only [Binary64.le, Bool.and_eq_true, decide_eq_true_eq] at le
    exact le.2
  rw [Int64.le_iff_toInt_le]
  exact low.mono high ((Binary64.value_le_value_iff x y).mpr placed)

/-- A float comes to the nearest integer or, where there is none in range, to zero; greater floats
come to greater integers, and an integer of at most 53 bits is kept by way of a float. -/
theorem floats_narrow_to_nearest :
    (∀ x : Binary64, ∃ r, (Value.float x).coerceInt = .ok r ∧ NarrowsTo x r ∧
      ∀ s, NarrowsTo x s → s = r) ∧
    (∀ (x y : Binary64) (r s : Int64), x.isFinite = true → y.isFinite = true → x.le y = true →
      NearestEven x.value r.toInt → NearestEven y.value s.toInt →
      (Value.float x).coerceInt = .ok r ∧ (Value.float y).coerceInt = .ok s ∧ r ≤ s) ∧
    ∀ n : Int64, n.toInt.natAbs ≤ 2 ^ 53 →
      ∃ x, (Value.int n).coerceFloat = .ok x ∧ (Value.float x).coerceInt = .ok n := by
  refine ⟨?_, ?_, ?_⟩
  · intro x
    have narrows := x.narrowsTo_wholeText
    refine ⟨_, rfl, narrows, ?_⟩
    intro s other
    exact other.unique narrows
  · intro x y r s finiteLow finiteHigh le low high
    refine ⟨?_, ?_, narrowed_le le low high⟩
    · exact (coerceInt_float_iff x r).mpr (.nearest r finiteLow low)
    · exact (coerceInt_float_iff y s).mpr (.nearest s finiteHigh high)
  · intro n small
    obtain ⟨finite, exact⟩ := Binary64.value_ofInt small
    refine ⟨Binary64.ofInt n.toInt, rfl, ?_⟩
    rw [coerceInt_float_iff]
    apply NarrowsTo.nearest n finite
    rw [exact]
    exact .of_int n.toInt

/-- Halves go to the even integer: 2.5 to 2 and 3.5 to 4. -/
theorem floats_narrow_to_nearest_halves :
    ((Value.float ⟨0x4004000000000000⟩).coerceInt = .ok 2 ∧
      (Value.float ⟨0x400C000000000000⟩).coerceInt = .ok 4 ∧ (2 : Int64) ≤ 4) ∧
    ∃ x, (Value.int 9007199254740992).coerceFloat = .ok x ∧
      (Value.float x).coerceInt = .ok 9007199254740992 := by
  have low : NearestEven (Binary64.value ⟨0x4004000000000000⟩) (2 : Int64).toInt := by
    have exact : Binary64.value ⟨0x4004000000000000⟩ = 5 / 2 := by decide +kernel
    have two : (2 : Int64).toInt = 2 := rfl
    rw [exact, two]
    apply NearestEven.of_half
    · norm_num
    · norm_num
  have high : NearestEven (Binary64.value ⟨0x400C000000000000⟩) (4 : Int64).toInt := by
    have exact : Binary64.value ⟨0x400C000000000000⟩ = 7 / 2 := by decide +kernel
    have four : (4 : Int64).toInt = 4 := rfl
    rw [exact, four]
    apply NearestEven.of_half
    · norm_num
    · intro _
      decide
  obtain ⟨_, ordered, kept⟩ := floats_narrow_to_nearest
  refine ⟨?_, ?_⟩
  · apply ordered _ _ 2 4 _ _ _ low high <;> decide
  · apply kept
    decide

end Sluice
