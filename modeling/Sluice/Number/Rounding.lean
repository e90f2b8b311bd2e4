/-!
# Rounding a quotient

A quotient of naturals is rounded to the nearest natural, and a quotient that lies exactly
between two naturals goes to the even one.  Float texts, float arithmetic and the narrowing of
floats to integers all round through this one function.
-/

set_option autoImplicit false

namespace Sluice

/-- The natural nearest to `num / den`; a tie goes to the even neighbour. -/
def roundQuotient (num den : Nat) : Nat :=
  let quotient := num / den
  let twice := 2 * (num % den)
  if twice < den then quotient
  else if den < twice then quotient + 1
  else if quotient % 2 = 0 then quotient
  else quotient + 1

theorem roundQuotient_mul (n : Nat) {den : Nat} (positive : 0 < den) :
    roundQuotient (den * n) den = n := by
  simp [roundQuotient, Nat.mul_div_cancel_left n positive, positive]

theorem roundQuotient_one (n : Nat) : roundQuotient n 1 = n := by
  simpa using roundQuotient_mul n Nat.one_pos

/-- A rounded quotient is within half a unit of the exact one, and even if it is half a unit off. -/
theorem roundQuotient_within (num den : Nat) (positive : 0 < den) :
    2 * (den * roundQuotient num den) ≤ 2 * num + den ∧
      2 * num ≤ 2 * (den * roundQuotient num den) + den ∧
      (2 * num + den = 2 * (den * roundQuotient num den) ∨
          2 * num = 2 * (den * roundQuotient num den) + den →
        roundQuotient num den % 2 = 0) := by
  have exact := Nat.div_add_mod num den
  have small := Nat.mod_lt num positive
  have next : den * (num / den + 1) = den * (num / den) + den := Nat.mul_succ ..
  unfold roundQuotient
  simp only
  split
  · omega
  · split
    · omega
    · split <;> omega

end Sluice
