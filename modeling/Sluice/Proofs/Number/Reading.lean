import Sluice.Number.Reading
import Sluice.Value

/-!
# Integers survive their texts

The decimal text of a 64-bit integer is read as that integer.
-/

set_option autoImplicit false

namespace Sluice

theorem digitValue?_digitChar {digit : Nat} (small : digit < 10) :
    digitValue? (Nat.digitChar digit) = some digit := by
  revert small
  revert digit
  decide

def signed (negative : Bool) (n : Nat) : Int := if negative then -n else n

theorem signed_div_mod (negative : Bool) (n : Nat) :
    10 * signed negative (n / 10) + signed negative (n % 10) = signed negative n := by
  cases negative <;> simp only [signed, if_true, Bool.false_eq_true, if_false] <;> omega

def outOfRange (negative : Bool) : IntegerFault := if negative then .tooSmall else .tooLarge

theorem readDigits_digit {negative : Bool} {value : Int} {digit : Nat} (small : digit < 10)
    (rest : List Char) :
    readDigits negative (Nat.digitChar digit :: rest) value =
      if 10 * value + signed negative digit < int64Min then .error .tooSmall
      else if int64Max < 10 * value + signed negative digit then .error .tooLarge
      else readDigits negative rest (10 * value + signed negative digit) := by
  have next : (if negative then 10 * value - digit else 10 * value + digit) =
      10 * value + signed negative digit := by
    cases negative with
    | true => simp [signed, Int.sub_eq_add_neg]
    | false => simp [signed]
  rw [readDigits, digitValue?_digitChar small]
  dsimp only
  rw [next]

theorem readDigits_toDigits (negative : Bool) (n : Nat) (rest : List Char) :
    readDigits negative (Nat.toDigits 10 n ++ rest) 0 =
      if fitsInt64 (signed negative n) then readDigits negative rest (signed negative n)
      else .error (outOfRange negative) := by
  have leastSign : int64Min < -10 := by decide
  have greatestSign : 10 < int64Max := by decide
  induction n using Nat.strongRecOn generalizing rest with
  | ind n ih =>
      have last (value : Int) (digit : Nat) (isDigit : digit < 10)
          (whole : 10 * value + signed negative digit = signed negative n) :
          readDigits negative (Nat.digitChar digit :: rest) value =
            if fitsInt64 (signed negative n) then readDigits negative rest (signed negative n)
            else .error (outOfRange negative) := by
        rw [readDigits_digit isDigit, whole]
        cases negative <;>
          simp only [signed, outOfRange, fitsInt64, decide_eq_true_eq, if_true, Bool.false_eq_true,
            if_false] <;>
          grind
      by_cases small : n < 10
      · rw [Nat.toDigits_of_lt_base small, List.singleton_append, last 0 n small (by simp)]
      · rw [Nat.toDigits_of_base_le (by omega) (by omega), List.append_assoc, List.singleton_append,
          ih (n / 10) (by omega)]
        -- The digits before the last one are no larger than the whole.
        by_cases first : fitsInt64 (signed negative (n / 10)) = true
        · rw [if_pos first]
          exact last _ _ (Nat.mod_lt _ (by omega)) (signed_div_mod negative n)
        · have outside : ¬ fitsInt64 (signed negative n) = true := by
            revert first
            cases negative <;>
              simp only [signed, fitsInt64, decide_eq_true_eq, if_true, Bool.false_eq_true,
                if_false] <;>
              omega
          rw [if_neg first, if_neg outside]

theorem head_toDigits (n : Nat) :
    ∃ digit rest, digit < 10 ∧ Nat.toDigits 10 n = Nat.digitChar digit :: rest := by
  induction n using Nat.strongRecOn with
  | ind n ih =>
      by_cases small : n < 10
      · exact ⟨n, [], small, Nat.toDigits_of_lt_base small⟩
      · obtain ⟨digit, rest, isDigit, first⟩ := ih (n / 10) (by omega)
        refine ⟨digit, rest ++ [Nat.digitChar (n % 10)], isDigit, ?_⟩
        rw [Nat.toDigits_of_base_le (by omega) (by omega), first, List.cons_append]

theorem digitChar_ne_sign {digit : Nat} (small : digit < 10) :
    Nat.digitChar digit ≠ '-' ∧ Nat.digitChar digit ≠ '+' := by
  revert small
  revert digit
  decide

def signChars (negative : Bool) : List Char := if negative then ['-'] else []

/-- The digits of a number with its sign are read as the number if it is in range. -/
theorem readInt_digits {text : String} {negative : Bool} {n : Nat}
    (digits : text.toList = signChars negative ++ Nat.toDigits 10 n) :
    readInt text =
      if fitsInt64 (signed negative n) then .ok (Int64.ofInt (signed negative n))
      else .error (outOfRange negative) := by
  have reads := readDigits_toDigits negative n []
  rw [List.append_nil, readDigits] at reads
  obtain ⟨digit, others, small, first⟩ := head_toDigits n
  obtain ⟨notMinus, notPlus⟩ := digitChar_ne_sign small
  rw [first] at reads digits
  rw [readInt, digits]
  cases negative
  all_goals
    simp only [signChars, if_true, Bool.false_eq_true, if_false, List.nil_append,
      List.singleton_append]
    simp [notMinus, notPlus, reads]
    split <;> rfl

theorem fitsInt64_toInt (n : Int64) : fitsInt64 n.toInt = true := by
  have least := n.le_toInt
  have greatest := n.toInt_lt
  exact decide_eq_true ⟨least, Int.le_of_lt_add_one greatest⟩

theorem readInt_intText (n : Int64) : readInt (Value.intText n) = .ok n := by
  have fits := fitsInt64_toInt n
  have back := Int64.ofInt_toInt n
  cases value : n.toInt with
  | ofNat magnitude =>
      have digits : (Value.intText n).toList = signChars false ++ Nat.toDigits 10 magnitude := by
        rw [Value.intText, value]
        exact Nat.toList_repr
      have same : signed false magnitude = n.toInt := value.symm
      rw [readInt_digits digits, same, if_pos fits, back]
  | negSucc magnitude =>
      have digits : (Value.intText n).toList =
          signChars true ++ Nat.toDigits 10 (magnitude + 1) := by
        rw [Value.intText, value]
        simp [Int.toString_eq_repr, Int.repr, signChars]
      have same : signed true (magnitude + 1) = n.toInt := value.symm
      rw [readInt_digits digits, same, if_pos fits, back]

end Sluice
