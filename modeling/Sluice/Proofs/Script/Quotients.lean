import Mathlib.Data.Int.Basic
import Sluice.Proofs.Number.Reading
import Sluice.Script.Evaluation
import Sluice.Script.Folding

/-!
# Quotients and remainders of integers

Integers that an expression divides come to an integer exactly when the quotient is one and has its
place in 64 bits, and to a float otherwise.  The remainder belongs to the quotient truncated toward
zero; it is an integer unless the divisor is zero or the truncated quotient is the one without a
place, that of the least integer by minus one.  So neither operator ever faults on integers.
-/

set_option autoImplicit false

namespace Sluice

namespace Script

/-! ## Integers of any size -/

/-- What is left of a dividend by the quotient that is truncated toward zero. -/
structure IsRemainder (a b r : Int) : Prop where
  whole : a = b * a.tdiv b + r
  smaller : r.natAbs < b.natAbs
  signed : r = 0 ∨ r.sign = a.sign

theorem isRemainder_iff {a b r : Int} (nonzero : b ≠ 0) : IsRemainder a b r ↔ r = a.tmod b := by
  have whole := Int.mul_tdiv_add_tmod a b
  constructor
  · intro remains
    have same := remains.whole
    omega
  · rintro rfl
    refine ⟨whole.symm, ?_, ?_⟩
    · rw [Int.natAbs_tmod]
      exact Nat.mod_lt _ (Int.natAbs_pos.2 nonzero)
    · by_cases divides : b ∣ a
      · exact .inl (Int.tmod_eq_zero_of_dvd divides)
      · exact .inr (by rw [Int.sign_tmod, if_neg divides])

theorem mul_eq_iff {a b q : Int} (nonzero : b ≠ 0) :
    q * b = a ↔ a.tmod b = 0 ∧ q = a.tdiv b := by
  constructor
  · rintro rfl
    exact ⟨Int.mul_tmod_left q b, (Int.mul_tdiv_cancel q nonzero).symm⟩
  · rintro ⟨none, rfl⟩
    exact Int.tdiv_mul_cancel (Int.dvd_of_tmod_eq_zero none)

/-! ## Integers of 64 bits -/

theorem toInt_ofInt_of_fits {n : Int} (fits : fitsInt64 n = true) : (Int64.ofInt n).toInt = n := by
  obtain ⟨least, greatest⟩ := of_decide_eq_true fits
  exact Int64.toInt_ofInt_of_le least (Int.lt_add_one_of_le greatest)

theorem toInt_ne_zero {b : Int64} : b.toInt ≠ 0 ↔ b ≠ 0 :=
  not_congr (Int64.toInt_inj (y := 0))

/-- Of all truncated quotients only one has no place in 64 bits. -/
theorem fitsInt64_tdiv_iff (a : Int64) {b : Int64} (nonzero : b ≠ 0) :
    fitsInt64 (a.toInt.tdiv b.toInt) = true ↔ ¬ (a = Int64.minValue ∧ b = -1) := by
  have least := a.le_toInt
  have greatest := a.toInt_lt
  have divisor := toInt_ne_zero.2 nonzero
  have size : (a.toInt.tdiv b.toInt).natAbs = a.toInt.natAbs / b.toInt.natAbs :=
    Int.natAbs_tdiv a.toInt b.toInt
  have edge : a = Int64.minValue ∧ b = -1 ↔ a.toInt = -2 ^ 63 ∧ b.toInt = -1 := by
    rw [← Int64.toInt_inj, ← Int64.toInt_inj]
    rfl
  rw [edge, fitsInt64, decide_eq_true_iff, int64Min, int64Max]
  by_cases unit : b.toInt.natAbs = 1
  · rcases Int.natAbs_eq_iff.1 unit with one | minusOne
    · rw [one, Int.natCast_one, Int.tdiv_one]
      omega
    · have opposite : a.toInt.tdiv (-1) = -a.toInt := by rw [Int.tdiv_neg, Int.tdiv_one]
      rw [minusOne, Int.natCast_one, opposite]
      omega
  · -- Any other divisor halves the dividend at least.
    have halved : a.toInt.natAbs / b.toInt.natAbs ≤ a.toInt.natAbs / 2 :=
      Nat.div_le_div_left (by omega) (by omega)
    omega

theorem fitsInt64_tmod (a : Int64) {b : Int64} (nonzero : b ≠ 0) :
    fitsInt64 (a.toInt.tmod b.toInt) = true := by
  have least := b.le_toInt
  have greatest := b.toInt_lt
  have remains : IsRemainder a.toInt b.toInt (a.toInt.tmod b.toInt) :=
    (isRemainder_iff (toInt_ne_zero.2 nonzero)).2 rfl
  have smaller := remains.smaller
  rw [fitsInt64, decide_eq_true_iff, int64Min, int64Max]
  omega

/-! ## The two operators -/

def Datum.IsInteger (datum : Datum) (n : Int) : Prop :=
  ∃ number : Int64, datum = .int number ∧ number.toInt = n

theorem isInteger_ofInt_iff {n m : Int} (fits : fitsInt64 n = true) :
    (Datum.int (Int64.ofInt n)).IsInteger m ↔ m = n := by
  constructor
  · rintro ⟨number, same, rfl⟩
    rw [← Datum.int.inj same, toInt_ofInt_of_fits fits]
  · rintro rfl
    exact ⟨_, rfl, toInt_ofInt_of_fits fits⟩

theorem not_isInteger_float {x : Binary64} {n : Int} : ¬ (Datum.float x).IsInteger n := by
  rintro ⟨number, same, _⟩
  cases same

theorem divide_isInteger_iff {a b : Int64} {q : Int} :
    (divide a b).IsInteger q ↔ (b ≠ 0 ∧ a.toInt.tmod b.toInt = 0 ∧
      fitsInt64 (a.toInt.tdiv b.toInt) = true) ∧ q = a.toInt.tdiv b.toInt := by
  rw [divide]
  split
  · next whole => rw [isInteger_ofInt_iff whole.2.2, and_iff_right whole]
  · next other => exact iff_of_false not_isInteger_float fun claims => other claims.1

theorem remainder_isInteger_iff {a b : Int64} {r : Int} :
    (remainder a b).IsInteger r ↔ (b ≠ 0 ∧ fitsInt64 (a.toInt.tdiv b.toInt) = true) ∧
      r = a.toInt.tmod b.toInt := by
  rw [remainder]
  split
  · next placed => rw [isInteger_ofInt_iff (fitsInt64_tmod a placed.1), and_iff_right placed]
  · next other => exact iff_of_false not_isInteger_float fun claims => other claims.1

/-- A quotient is an integer or the quotient of the floats, and so is a remainder. -/
theorem divide_cases (a b : Int64) : (∃ q, (divide a b).IsInteger q) ∨
    divide a b = .float ((Binary64.ofInt a.toInt).div (.ofInt b.toInt)) := by
  rw [divide]
  split
  · exact .inl ⟨_, _, rfl, rfl⟩
  · exact .inr rfl

theorem remainder_cases (a b : Int64) : (∃ r, (remainder a b).IsInteger r) ∨
    remainder a b = .float ((Binary64.ofInt a.toInt).rem (.ofInt b.toInt)) := by
  rw [remainder]
  split
  · exact .inl ⟨_, _, rfl, rfl⟩
  · exact .inr rfl

/-! ## Expressions -/

/-- Integers are divided when the expression is evaluated and not before, even where both are
constants. -/
theorem eval_folded {env : Environment} {op : BinaryOperator} (divides : op = .div ∨ op = .rem)
    {left right : Expr} {a b : Int64} (dividend : left.fold.eval env = .ok (.int a))
    (divisor : right.fold.eval env = .ok (.int b)) :
    (Expr.binary op left right).fold.eval env = op.apply (.int a) (.int b) := by
  have kept : foldBinary op left.fold right.fold = .binary op left.fold right.fold := by
    unfold foldBinary
    split
    · next c d leftEq rightEq =>
        rw [leftEq, Expr.eval] at dividend
        rw [rightEq, Expr.eval] at divisor
        obtain rfl := Except.ok.inj dividend
        obtain rfl := Except.ok.inj divisor
        have apart : foldsTogether op (.int a) (.int b) = false := by
          rcases divides with rfl | rfl <;> rfl
        rw [apart]
        rfl
    · rfl
  rw [Expr.fold, kept, Expr.eval, dividend, divisor]
  cases left.fold.isReference <;> rfl

/-- Whatever two expressions come to integers, dividing one by the other comes to an integer exactly
if it is the quotient, and the remainder to one exactly if the truncated quotient exists; where they
come to none they come to a float. -/
theorem integers_divide {env : Environment} {left right : Expr} {a b : Int64}
    (dividend : left.fold.eval env = .ok (.int a))
    (divisor : right.fold.eval env = .ok (.int b)) :
    ∃ quotient rest : Datum,
      (Expr.binary .div left right).fold.eval env = .ok quotient ∧
      (Expr.binary .rem left right).fold.eval env = .ok rest ∧
      (∀ q, quotient.IsInteger q ↔ b ≠ 0 ∧ q * b.toInt = a.toInt ∧ fitsInt64 q = true) ∧
      ((∃ r, rest.IsInteger r) ↔ b ≠ 0 ∧ ¬ (a = Int64.minValue ∧ b = -1)) ∧
      (∀ r, rest.IsInteger r → IsRemainder a.toInt b.toInt r) ∧
      ((∃ q, quotient.IsInteger q) ↔ rest.IsInteger 0) ∧
      ((∃ q, quotient.IsInteger q) ∨
        quotient = .float ((Binary64.ofInt a.toInt).div (.ofInt b.toInt))) ∧
      ((∃ r, rest.IsInteger r) ∨
        rest = .float ((Binary64.ofInt a.toInt).rem (.ofInt b.toInt))) := by
  refine ⟨divide a b, remainder a b, eval_folded (.inl rfl) dividend divisor,
    eval_folded (.inr rfl) dividend divisor, ?_, ?_, ?_, ?_, divide_cases a b, remainder_cases a b⟩
  · intro q
    rw [divide_isInteger_iff, and_assoc]
    refine and_congr_right fun nonzero => ?_
    rw [mul_eq_iff (toInt_ne_zero.2 nonzero), and_assoc, and_assoc]
    refine and_congr_right fun _ => ?_
    constructor
    · rintro ⟨fits, rfl⟩
      exact ⟨rfl, fits⟩
    · rintro ⟨rfl, fits⟩
      exact ⟨fits, rfl⟩
  · simp only [remainder_isInteger_iff, exists_and_left, exists_eq, and_true]
    exact and_congr_right fun nonzero => fitsInt64_tdiv_iff a nonzero
  · intro r integer
    obtain ⟨⟨nonzero, _⟩, same⟩ := remainder_isInteger_iff.1 integer
    exact (isRemainder_iff (toInt_ne_zero.2 nonzero)).2 same
  · simp only [divide_isInteger_iff, remainder_isInteger_iff, exists_and_left, exists_eq, and_true]
    constructor
    · rintro ⟨nonzero, none, fits⟩
      exact ⟨⟨nonzero, fits⟩, none.symm⟩
    · rintro ⟨⟨nonzero, fits⟩, none⟩
      exact ⟨nonzero, none.symm, fits⟩

/-- A quotient that is no integer leaves a remainder, and one that has no place leaves none. -/
theorem integers_divide_edges :
    let env : Environment := ⟨fun _ => some (.int Int64.minValue), fun _ => .error .wrongType⟩
    let least : Expr := .reference "n"
    let constant : Int64 → Expr := fun number => .constant (.int number)
    ((constant (-7)).fold.eval env = .ok (.int (-7)) ∧ (constant 2).fold.eval env = .ok (.int 2)) ∧
      (∃ rest, (Expr.binary .rem (constant (-7)) (constant 2)).fold.eval env = .ok rest ∧
        rest.IsInteger (-1) ∧ IsRemainder (-7) 2 (-1)) ∧
      (least.fold.eval env = .ok (.int Int64.minValue) ∧
        (constant (-1)).fold.eval env = .ok (.int (-1))) ∧
      ∃ quotient rest, (Expr.binary .div least (constant (-1))).fold.eval env = .ok quotient ∧
        (Expr.binary .rem least (constant (-1))).fold.eval env = .ok rest ∧
        (∃ x, quotient = .float x) ∧ ∃ x, rest = .float x := by
  intro env least constant
  have seven : (constant (-7)).fold.eval env = .ok (.int (-7)) := rfl
  have two : (constant 2).fold.eval env = .ok (.int 2) := rfl
  have first : least.fold.eval env = .ok (.int Int64.minValue) := rfl
  have minusOne : (constant (-1)).fold.eval env = .ok (.int (-1)) := rfl
  refine ⟨⟨seven, two⟩, ?_, ⟨first, minusOne⟩, ?_⟩
  · obtain ⟨_, rest, _, divides, _, exists_iff, remains, _⟩ := integers_divide seven two
    obtain ⟨r, integer⟩ := exists_iff.2 ⟨by decide, by decide⟩
    have leaves : IsRemainder (-7) 2 r := remains r integer
    obtain rfl : r = -1 := (isRemainder_iff (by decide)).1 leaves
    exact ⟨rest, divides, integer, leaves⟩
  · obtain ⟨quotient, rest, divides, divides', whole_iff, exists_iff, _, _, isNumber, isNumber'⟩ :=
      integers_divide first minusOne
    refine ⟨quotient, rest, divides, divides', ?_, ?_⟩
    · rcases isNumber with ⟨q, integer⟩ | float
      · obtain ⟨_, whole, fits⟩ := (whole_iff q).1 integer
        have opposite : q * -1 = -2 ^ 63 := whole
        have greatest : q ≤ 2 ^ 63 - 1 := (of_decide_eq_true fits).2
        omega
      · exact ⟨_, float⟩
    · rcases isNumber' with integer | float
      · exact ((exists_iff.1 integer).2 ⟨rfl, rfl⟩).elim
      · exact ⟨_, float⟩

end Script

end Sluice
