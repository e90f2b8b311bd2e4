import Sluice.Proofs.Number.Reading
import Sluice.Proofs.Outcome
import Sluice.Time.Moment
import Sluice.Time.Scan

/-!
# Digits of a date text

A number that is written in a given number of digits is read from them as that number, and what
follows the digits is left.
-/

set_option autoImplicit false

namespace Sluice

namespace Moment

theorem padded_digit {n : Nat} (small : n < 10) : padded 1 n = [Nat.digitChar n] := by
  rw [padded, Nat.toDigits_of_lt_base small]
  rfl

/-- The last digit comes after the others, which are those of the tenth part. -/
theorem padded_succ {width : Nat} (positive : 0 < width) (n : Nat) :
    padded (width + 1) n = padded width (n / 10) ++ [Nat.digitChar (n % 10)] := by
  obtain ⟨width, rfl⟩ := Nat.exists_eq_add_one_of_ne_zero (Nat.ne_of_gt positive)
  by_cases small : n < 10
  · have none : n / 10 = 0 := Nat.div_eq_of_lt small
    have all : n % 10 = n := Nat.mod_eq_of_lt small
    rw [padded, padded, none, all, Nat.toDigits_of_lt_base small,
      Nat.toDigits_of_lt_base (by decide)]
    simp [List.replicate_succ', Nat.digitChar]
  · have digits := Nat.toDigits_of_base_le (b := 10) (by decide) (Nat.not_lt.1 small)
    rw [padded, padded, digits, ← List.append_assoc]
    simp

theorem padded_two {n : Nat} (small : n < 100) :
    padded 2 n = [Nat.digitChar (n / 10), Nat.digitChar (n % 10)] := by
  rw [padded_succ (by decide), padded_digit (by omega)]
  rfl

/-- Four digits are two and two. -/
theorem padded_four (n : Nat) :
    padded 4 n = padded 2 (n / 100) ++ padded 2 (n % 100) := by
  have hundreds : n / 10 / 10 = n / 100 := Nat.div_div_eq_div_mul n 10 10
  have tens : n / 10 % 10 = n % 100 / 10 := by omega
  have ones : n % 10 = n % 100 % 10 := by omega
  rw [padded_succ (by decide), padded_succ (by decide), hundreds, tens, ones,
    padded_two (by omega : n % 100 < 100), List.append_assoc]
  rfl

theorem tenth_lt {width n : Nat} (small : n < tenTo (width + 1)) : n / 10 < tenTo width := by
  rw [tenTo_succ] at small
  exact Nat.div_lt_of_lt_mul (by rwa [Nat.mul_comm])

theorem length_padded {width n : Nat} (small : n < tenTo (width + 1)) :
    (padded (width + 1) n).length = width + 1 := by
  induction width generalizing n with
  | zero => rw [padded_digit small, List.length_singleton]
  | succ width ih =>
      rw [padded_succ (Nat.succ_pos _), List.length_append, ih (tenth_lt small),
        List.length_singleton]

theorem isDigit_of_mem_padded {width n : Nat} {c : Char} (member : c ∈ padded width n) :
    c.isDigit = true := by
  rw [padded, List.mem_append] at member
  rcases member with fill | digit
  · obtain rfl := List.eq_of_mem_replicate fill
    rfl
  · exact Nat.isDigit_of_mem_toDigits (by decide) (by decide) digit

end Moment

namespace TimeScan

open Moment (padded padded_digit padded_two padded_succ tenth_lt length_padded)

theorem digitChar_scanned {digit : Nat} (small : digit < 10) :
    isDigit (Nat.digitChar digit) = true ∧ (Nat.digitChar digit).toNat - '0'.toNat = digit := by
  revert small
  revert digit
  decide

theorem length_le_utf8Length (text : List Char) : text.length ≤ utf8Length text := by
  induction text with
  | nil => exact Nat.le_refl 0
  | cons c text ih =>
      have one := Char.utf8Size_pos c
      rw [List.length_cons, utf8Length]
      omega

def EndsDigits (rest : List Char) : Prop := ∀ c, rest.head? = some c → isDigit c = false

theorem digits_digit {digit value : Nat} (small : digit < 10)
    (fits : ((10 * value + digit : Nat) : Int) ≤ int64Max) (min count max : Nat)
    (rest : List Char) :
    digits min count (max + 1) value (Nat.digitChar digit :: rest) =
      digits min (count + 1) max (10 * value + digit) rest := by
  obtain ⟨isDigit, same⟩ := digitChar_scanned small
  rw [digits, if_pos isDigit, same]
  exact if_neg (Int.not_lt.2 fits)

theorem digits_padded {width n : Nat} (small : n < tenTo (width + 1))
    (fits : (n : Int) ≤ int64Max) (min max : Nat) (rest : List Char) :
    digits min 0 (max + (width + 1)) 0 (padded (width + 1) n ++ rest) =
      digits min (width + 1) max n rest := by
  induction width generalizing n max rest with
  | zero =>
      have digit : n < 10 := small
      rw [padded_digit digit, List.singleton_append, digits_digit digit (by simpa using fits)]
      simp
  | succ width ih =>
      have whole : 10 * (n / 10) + n % 10 = n := Nat.div_add_mod n 10
      have first := ih (tenth_lt small) (by omega) (max + 1) (Nat.digitChar (n % 10) :: rest)
      rw [padded_succ (Nat.succ_pos _), List.append_assoc, List.singleton_append,
        show max + (width + 1 + 1) = max + 1 + (width + 1) by omega, first,
        digits_digit (Nat.mod_lt _ (by decide)) (by rwa [whole]), whole]

theorem digits_ended {min count : Nat} (enough : min ≤ count) {rest : List Char}
    (ends : EndsDigits rest) (max value : Nat) :
    digits min count max value rest = .ok (value, rest) := by
  cases max with
  | zero => rw [digits]
  | succ max =>
      cases rest with
      | nil => rw [digits, if_neg (Nat.not_lt.2 enough)]
      | cons c rest =>
          rw [digits, if_neg (by simp [ends c rfl]), if_neg (Nat.not_lt.2 enough)]

theorem dropWhile_ended {rest : List Char} (ends : EndsDigits rest) :
    rest.dropWhile isDigit = rest := by
  cases rest with
  | nil => rfl
  | cons c rest => exact List.dropWhile_cons_of_neg (by simp [ends c rfl])

/-- A fraction in at most nine digits is read as its nanoseconds. -/
theorem nanoseconds_padded {width n : Nat} (narrow : width < 9) (small : n < tenTo (width + 1))
    {rest : List Char} (ends : EndsDigits rest) :
    nanoseconds (padded (width + 1) n ++ rest) = .ok (n * tenTo (9 - (width + 1)), rest) := by
  have length := length_padded small
  have fits : (n : Int) ≤ int64Max := by
    have bound : tenTo (width + 1) ≤ 1000000000 := Nat.pow_le_pow_right (by decide) narrow
    rw [int64Max]
    omega
  have reads : number 1 9 (padded (width + 1) n ++ rest) = .ok (n, rest) := by
    have long := length_le_utf8Length (padded (width + 1) n ++ rest)
    rw [List.length_append, length] at long
    rw [number, if_neg (by omega), show 9 = 9 - (width + 1) + (width + 1) by omega,
      digits_padded small fits, digits_ended (by omega) ends]
  have scale : (padded (width + 1) n ++ rest).length - rest.length = width + 1 := by
    rw [List.length_append, length, Nat.add_sub_cancel]
  rw [nanoseconds, reads, Outcome.ok_bind]
  dsimp only
  rw [scale, dropWhile_ended ends]
  rfl

theorem twoDigits_padded {n : Nat} (small : n < 100) (rest : List Char) :
    twoDigits (padded 2 n ++ rest) = .ok (n, rest) := by
  obtain ⟨tens, tensValue⟩ := digitChar_scanned (by omega : n / 10 < 10)
  obtain ⟨ones, onesValue⟩ := digitChar_scanned (by omega : n % 10 < 10)
  have both : (isDigit (Nat.digitChar (n / 10)) && isDigit (Nat.digitChar (n % 10))) = true :=
    Bool.and_eq_true_iff.2 ⟨tens, ones⟩
  have value := Nat.div_add_mod n 10
  rw [← tensValue, ← onesValue] at value
  have long := length_le_utf8Length (Nat.digitChar (n / 10) :: Nat.digitChar (n % 10) :: rest)
  have enough : ¬ utf8Length (Nat.digitChar (n / 10) :: Nat.digitChar (n % 10) :: rest) < 2 := by
    rw [List.length_cons, List.length_cons] at long
    omega
  simp only [padded_two small, List.cons_append, List.nil_append, twoDigits, if_neg enough,
    if_pos both, value]

end TimeScan

end Sluice
