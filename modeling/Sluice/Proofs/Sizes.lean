import Mathlib.Data.Rat.Cast.Order
import Mathlib.Tactic.NormNum
import Sluice.Proofs.Number.Exact
import Sluice.Proofs.Outcome
import Sluice.Table.FixedWidth

/-!
# Sizes

A size is taken from a number of the settings if the number is a natural of at most 64 bits, and it
is that natural, also where the number is written as a float.  One float beyond them is taken too:
the bound is rounded to it, and what is taken for it is one less.
-/

set_option autoImplicit false

namespace Sluice

/-! ## Whole floats -/

namespace Binary64

theorem le_iff_value_le {x y : Binary64} (finite : x.isFinite = true)
    (finiteToo : y.isFinite = true) : x.le y = true ↔ x.value ≤ y.value := by
  have number : ∀ {z : Binary64}, z.isFinite = true → z.isNaN = false := by
    intro z below
    exact decide_eq_false (Nat.lt_asymm (of_decide_eq_true below))
  rw [value_le_value_iff, le, comparable, number finite, number finiteToo]
  simp

theorem isFinite_of_isWhole {x : Binary64} (whole : x.isWhole = true) : x.isFinite = true := by
  rw [isWhole, Bool.and_eq_true] at whole
  exact whole.1

/-- Nothing is lost when a whole float is truncated. -/
theorem value_of_isWhole {x : Binary64} (whole : x.isWhole = true) : x.value = x.truncatedInt := by
  rw [isWhole, Bool.and_eq_true, decide_eq_true_eq] at whole
  have positive : (unitsPerOne : ℚ) ≠ 0 := by exact_mod_cast unitsPerOne_pos.ne'
  have exact : (x.units / unitsPerOne : ℕ) * unitsPerOne = x.units :=
    Nat.div_mul_cancel (Nat.dvd_of_mod_eq_zero whole.2)
  rw [value_eq, div_eq_iff positive, signedUnits, truncatedInt]
  generalize x.units / unitsPerOne = count at *
  rw [← exact]
  -- Kept closed: the power of two that it is need not be computed.
  generalize unitsPerOne = one
  cases x.isNegative with
  | true => simp
  | false => simp

theorem isWhole_of_value {x : Binary64} (finite : x.isFinite = true) {n : ℤ} (value : x.value = n) :
    x.isWhole = true := by
  have positive : (unitsPerOne : ℚ) ≠ 0 := by exact_mod_cast unitsPerOne_pos.ne'
  rw [value_eq, div_eq_iff positive] at value
  have units : x.signedUnits = n * unitsPerOne := by exact_mod_cast value
  have divides : (unitsPerOne : ℤ) ∣ x.signedUnits := ⟨n, by rw [units, mul_comm]⟩
  have magnitude : (unitsPerOne : ℤ) ∣ x.units := by
    rw [signedUnits] at divides
    split at divides
    · exact (Int.dvd_neg).1 divides
    · exact divides
  rw [isWhole, finite, Bool.true_and, decide_eq_true_eq]
  exact Nat.mod_eq_zero_of_dvd (Int.natCast_dvd_natCast.1 magnitude)

theorem value_zero : zero.value = 0 := by decide +kernel

/-- The greatest size is no float; the nearest one is the next power of two. -/
theorem value_ofInt_sizeMax : (ofInt Settings.sizeMax).isFinite = true ∧
    (ofInt Settings.sizeMax).value = 2 ^ 64 := by decide +kernel

theorem sized_iff (x : Binary64) :
    (le zero x && x.isWhole && x.le (ofInt Settings.sizeMax)) = true ↔
      x.isFinite = true ∧ ∃ n : ℕ, x.value = n ∧ n ≤ 2 ^ 64 := by
  obtain ⟨finiteBound, bound⟩ := value_ofInt_sizeMax
  rw [Bool.and_eq_true, Bool.and_eq_true]
  constructor
  · rintro ⟨⟨least, whole⟩, greatest⟩
    have finite := isFinite_of_isWhole whole
    have value := value_of_isWhole whole
    rw [le_iff_value_le rfl finite, value_zero, value] at least
    rw [le_iff_value_le finite finiteBound, bound, value] at greatest
    obtain ⟨n, same⟩ := Int.eq_ofNat_of_zero_le (Int.cast_nonneg_iff.1 least)
    rw [same, Int.cast_natCast] at value greatest
    exact ⟨finite, n, value, by exact_mod_cast greatest⟩
  · rintro ⟨finite, n, value, small⟩
    refine ⟨⟨?_, ?_⟩, ?_⟩
    · rw [le_iff_value_le rfl finite, value_zero, value]
      exact n.cast_nonneg
    · exact isWhole_of_value (n := n) finite (by rw [value, Int.cast_natCast])
    · rw [le_iff_value_le finite finiteBound, bound, value]
      exact_mod_cast small

end Binary64

/-! ## Numbers of the settings -/

/-- The rational that a number of a document is: an integer of 64 bits, signed or unsigned, or a
finite float. -/
inductive Json.HasValue : Json → ℚ → Prop where
  | int {n : ℤ} (least : int64Min ≤ n) (greatest : n ≤ Settings.sizeMax) : HasValue (.int n) n
  | float {x : Binary64} (finite : x.isFinite = true) : HasValue (.float x) x.value

namespace Settings

variable {key : String} {number : Json} {value : ℚ}

/-- The natural is the size that a number stands for: the number itself, or, for the float next to
the greatest size, that size. -/
def Sizes (value : ℚ) (n : ℕ) : Prop :=
  value = n ∧ n ≤ sizeMax ∨ value = 2 ^ 64 ∧ n = sizeMax

theorem sizes_min {n : ℕ} (small : n ≤ 2 ^ 64) : Sizes n (min n sizeMax) := by
  rcases Nat.lt_or_eq_of_le small with less | rfl
  · have inRange : n ≤ sizeMax := Nat.le_of_lt_succ less
    rw [Nat.min_eq_left inRange]
    exact .inl ⟨rfl, inRange⟩
  · exact .inr ⟨by norm_num, rfl⟩

theorem Sizes.eq_min {n m : ℕ} (sizes : Sizes n m) : n ≤ 2 ^ 64 ∧ m = min n sizeMax := by
  rcases sizes with ⟨same, inRange⟩ | ⟨same, rfl⟩
  · obtain rfl : n = m := by exact_mod_cast same
    exact ⟨Nat.le_succ_of_le inRange, (Nat.min_eq_left inRange).symm⟩
  · obtain rfl : n = 2 ^ 64 := by exact_mod_cast same
    exact ⟨Nat.le_refl _, rfl⟩

def noSize (key : String) : Failure := .settings key "expected a non-negative integer, got number"

theorem sizeOf_of_natural {n : ℕ} (is : number.HasValue n) (small : n ≤ 2 ^ 64) :
    sizeOf key number = .ok (min n sizeMax) := by
  generalize same : (n : ℚ) = value at is
  cases is with
  | @int m least greatest =>
      obtain rfl : (n : ℤ) = m := by exact_mod_cast same
      have inRange : n ≤ sizeMax := by exact_mod_cast greatest
      rw [sizeOf, if_pos ⟨Int.natCast_nonneg n, greatest⟩, Nat.min_eq_left inRange,
        Int.toNat_natCast]
  | @float x finite =>
      have sized := (Binary64.sized_iff x).2 ⟨finite, n, same.symm, small⟩
      have whole := Binary64.isWhole_of_value (n := n) finite (by rw [← same, Int.cast_natCast])
      have truncated : x.truncatedInt = n := by
        have exact := same.trans (Binary64.value_of_isWhole whole)
        exact_mod_cast exact.symm
      rw [sizeOf, if_pos sized, truncated, Int.toNat_natCast]

theorem sizeOf_of_no_natural (is : number.HasValue value)
    (never : ∀ n : ℕ, value = n → 2 ^ 64 < n) : sizeOf key number = .error (noSize key) := by
  cases is with
  | @int m least greatest =>
      have negative : ¬ (0 ≤ m ∧ m ≤ sizeMax) := by
        rintro ⟨nonneg, _⟩
        obtain ⟨n, rfl⟩ := Int.eq_ofNat_of_zero_le nonneg
        have beyond := never n (Int.cast_natCast n)
        have inRange : n ≤ sizeMax := by exact_mod_cast greatest
        exact Nat.not_lt_of_le (Nat.le_succ_of_le inRange) beyond
      rw [sizeOf, if_neg negative]
      rfl
  | @float x finite =>
      have unsized : ¬ (Binary64.le .zero x && x.isWhole && x.le (.ofInt sizeMax)) = true := by
        rw [Binary64.sized_iff]
        rintro ⟨_, n, same, small⟩
        exact Nat.not_lt_of_le small (never n same)
      rw [sizeOf, if_neg unsized]
      rfl

theorem sizeOf_eq_ok (is : number.HasValue value) {n : ℕ} :
    sizeOf key number = .ok n ↔ Sizes value n := by
  by_cases natural : ∃ m : ℕ, value = m ∧ m ≤ 2 ^ 64
  · obtain ⟨m, rfl, small⟩ := natural
    rw [sizeOf_of_natural is small, Except.ok.injEq]
    constructor
    · rintro rfl
      exact sizes_min small
    · intro sizes
      exact sizes.eq_min.2.symm
  · have never : ∀ m : ℕ, value = m → 2 ^ 64 < m :=
      fun m same => Nat.lt_of_not_le fun small => natural ⟨m, same, small⟩
    rw [sizeOf_of_no_natural is never]
    refine iff_of_false nofun fun sizes => natural ?_
    rcases sizes with ⟨same, inRange⟩ | ⟨same, _⟩
    · exact ⟨n, same, Nat.le_succ_of_le inRange⟩
    · exact ⟨2 ^ 64, by exact_mod_cast same, Nat.le_refl _⟩

/-- What is taken is the number itself, unless the number is the float next to the greatest size. -/
theorem sizeOf_exact_iff (is : number.HasValue value) :
    (∀ n, sizeOf key number = .ok n ↔ value = n ∧ n ≤ sizeMax) ↔ value ≠ 2 ^ 64 := by
  simp only [sizeOf_eq_ok is]
  constructor
  · rintro exact rfl
    have same : (2 ^ 64 : ℚ) = sizeMax := ((exact sizeMax).1 (.inr ⟨rfl, rfl⟩)).1
    norm_num [sizeMax] at same
  · intro other n
    exact or_iff_left fun next => other next.1

theorem sizeOf_eq_error (is : number.HasValue value) {failure : Failure} :
    sizeOf key number = .error failure ↔
      failure = noSize key ∧ ∀ n : ℕ, value = n → 2 ^ 64 < n := by
  by_cases natural : ∃ m : ℕ, value = m ∧ m ≤ 2 ^ 64
  · obtain ⟨m, rfl, small⟩ := natural
    rw [sizeOf_of_natural is small]
    refine iff_of_false nofun fun beyond => ?_
    exact Nat.not_lt_of_le small (beyond.2 m rfl)
  · have never : ∀ n : ℕ, value = n → 2 ^ 64 < n :=
      fun n same => Nat.lt_of_not_le fun small => natural ⟨n, same, small⟩
    rw [sizeOf_of_no_natural is never, Except.error.injEq, eq_comm]
    exact (and_iff_left never).symm

theorem hasValue_of_sizeOf {n : ℕ} (taken : sizeOf key number = .ok n) :
    ∃ value, number.HasValue value := by
  cases number with
  | int m =>
      rw [sizeOf] at taken
      split at taken
      · next inRange => exact ⟨m, .int (Int.le_trans (by decide) inRange.1) inRange.2⟩
      · cases taken
  | float x =>
      rw [sizeOf] at taken
      split at taken
      · next sized => exact ⟨_, .float ((Binary64.sized_iff x).1 sized).1⟩
      · cases taken
  | _ => cases taken

def StatesSize (settings : Settings) (key : String) (n : ℕ) : Prop :=
  ∃ number value, settings.get? key = some number ∧ number.HasValue value ∧ Sizes value n

theorem statesSize_of_sizeOf {settings : Settings} {n : ℕ}
    (stands : settings.get? key = some number) (taken : sizeOf key number = .ok n) :
    settings.StatesSize key n := by
  obtain ⟨value, is⟩ := hasValue_of_sizeOf taken
  exact ⟨number, value, stands, is, (sizeOf_eq_ok is).1 taken⟩

theorem requiredSize_of_get? {settings : Settings} (stands : settings.get? key = some number) :
    settings.requiredSize key = sizeOf key number := by
  rw [requiredSize, required, stands]
  rfl

theorem optionalSize_of_get? {settings : Settings} (stands : settings.get? key = some number)
    (is : number.HasValue value) : settings.optionalSize key = (sizeOf key number).map some := by
  rw [optionalSize, stands]
  cases is <;> rfl

theorem statesSize_of_requiredSize {settings : Settings} {n : ℕ}
    (taken : settings.requiredSize key = .ok n) : settings.StatesSize key n := by
  cases stands : settings.get? key with
  | none =>
      rw [requiredSize, required, stands] at taken
      cases taken
  | some number =>
      rw [requiredSize_of_get? stands] at taken
      exact statesSize_of_sizeOf stands taken

theorem statesSize_of_optionalSize {settings : Settings} {n : ℕ}
    (taken : settings.optionalSize key = .ok (some n)) : settings.StatesSize key n := by
  rw [optionalSize] at taken
  split at taken
  · cases taken
  · cases taken
  · next number _ stands =>
      obtain ⟨m, found, same⟩ := Outcome.map_eq_ok.1 taken
      obtain rfl := Option.some.inj same
      exact statesSize_of_sizeOf stands found

end Settings

/-! ## Columns -/

theorem FixedWidthColumn.statesSizes {members : Settings} {column : FixedWidthColumn}
    (accepted : ofSettings members = .ok column) :
    members.StatesSize "start" column.start ∧ members.StatesSize "length" column.length := by
  obtain ⟨start, starts, accepted⟩ := Outcome.bind_eq_ok.1 accepted
  obtain ⟨length, reaches, accepted⟩ := Outcome.bind_eq_ok.1 accepted
  split at accepted
  · cases accepted
  · obtain ⟨conversion, _, accepted⟩ := Outcome.bind_eq_ok.1 accepted
    obtain rfl := Except.ok.inj accepted
    exact ⟨Settings.statesSize_of_requiredSize starts, Settings.statesSize_of_requiredSize reaches⟩

theorem DelimitedColumn.statesIndex {byHeader : Bool} {members : Settings}
    {column : DelimitedColumn} (accepted : ofSettings byHeader members = .ok column) {n : ℕ}
    (placed : column.index = some n) : members.StatesSize "index" n := by
  obtain ⟨name, _, accepted⟩ := Outcome.bind_eq_ok.1 accepted
  obtain ⟨index, indexed, accepted⟩ := Outcome.bind_eq_ok.1 accepted
  obtain ⟨conversion, _, accepted⟩ := Outcome.bind_eq_ok.1 accepted
  split at accepted
  · cases accepted
  · obtain rfl := Except.ok.inj accepted
    obtain rfl : index = some n := placed
    exact Settings.statesSize_of_optionalSize indexed

open Settings in
/-- A number under a key is taken for a size exactly if it is a natural of at most 64 bits, and then
it is that natural, but for the float next to the greatest size, which is taken for that size; every
other number is refused.  So are the starts, lengths and positions of columns taken. -/
theorem sizes_taken_exactly (settings : Settings) :
    (∀ (key : String) (number : Json) (value : ℚ),
      settings.get? key = some number → number.HasValue value →
        (∀ n, settings.requiredSize key = .ok n ↔
          value = n ∧ n ≤ sizeMax ∨ value = 2 ^ 64 ∧ n = sizeMax) ∧
        (∀ failure, settings.requiredSize key = .error failure ↔
          failure = noSize key ∧ ∀ n : ℕ, value = n → 2 ^ 64 < n) ∧
        settings.optionalSize key = (settings.requiredSize key).map some ∧
        ((∀ n, settings.requiredSize key = .ok n ↔ value = n ∧ n ≤ sizeMax) ↔
          value ≠ 2 ^ 64)) ∧
    (∀ column, FixedWidthColumn.ofSettings settings = .ok column →
      settings.StatesSize "start" column.start ∧ settings.StatesSize "length" column.length) ∧
    ∀ (byHeader : Bool) (column : DelimitedColumn),
      DelimitedColumn.ofSettings byHeader settings = .ok column →
        ∀ n, column.index = some n → settings.StatesSize "index" n := by
  refine ⟨?_, fun _ => FixedWidthColumn.statesSizes, fun _ _ accepted _ =>
    DelimitedColumn.statesIndex accepted⟩
  intro key number value stands is
  rw [requiredSize_of_get? stands, optionalSize_of_get? stands is]
  exact ⟨fun n => sizeOf_eq_ok is, fun failure => sizeOf_eq_error is, rfl, sizeOf_exact_iff is⟩

open Settings in
/-- The start is written as an integer and the length as a float; one and a half is no size. -/
theorem sizes_taken_exactly_float :
    let length : Binary64 := ⟨0x4340000000000000⟩
    let fraction : Binary64 := ⟨0x3FF8000000000000⟩
    let members : Settings := [("datatype", .text "string"), ("fieldName", .text "f"),
      ("fraction", .float fraction), ("length", .float length), ("start", .int 3)]
    members.requiredSize "length" = .ok (2 ^ 53) ∧
      members.requiredSize "fraction" = .error (noSize "fraction") ∧
      ∃ column, FixedWidthColumn.ofSettings members = .ok column ∧
        members.StatesSize "start" column.start ∧ members.StatesSize "length" column.length := by
  intro length fraction members
  obtain ⟨numbers, columns, _⟩ := sizes_taken_exactly members
  have exact : length.value = (2 ^ 53 : ℕ) := by decide +kernel
  have half : fraction.value = 3 / 2 := by decide +kernel
  obtain ⟨takes, _, _⟩ := numbers "length" (.float length) _ rfl (.float rfl)
  obtain ⟨_, refuses, _⟩ := numbers "fraction" (.float fraction) _ rfl (.float rfl)
  have accepted : FixedWidthColumn.ofSettings members = .ok ⟨3, 2 ^ 53, ⟨.text, "", "f"⟩⟩ := by
    decide +kernel
  refine ⟨(takes _).2 (.inl ⟨exact, by decide⟩), (refuses _).2 ⟨rfl, ?_⟩, _, accepted,
    columns _ accepted⟩
  intro n whole
  rw [half] at whole
  have double : 3 = n * 2 := by exact_mod_cast (div_eq_iff (by norm_num)).1 whole
  omega

/-- The float next to the greatest size is taken for it, so the number that is taken is not the one
that the settings have. -/
theorem next_float_taken_for_greatest :
    let next : Binary64 := ⟨0x43F0000000000000⟩
    let members : Settings := [("columnName", .text "c"), ("datatype", .text "string"),
      ("fieldName", .text "f"), ("index", .float next)]
    next.value = 2 ^ 64 ∧ members.requiredSize "index" = .ok 18446744073709551615 ∧
      ∃ column, DelimitedColumn.ofSettings false members = .ok column ∧
        column.index = some 18446744073709551615 := by
  intro next members
  have exact : next.value = 2 ^ 64 := by decide +kernel
  have accepted : DelimitedColumn.ofSettings false members =
      .ok ⟨some "c", some 18446744073709551615, ⟨.text, "", "f"⟩⟩ := by decide +kernel
  have taken : members.requiredSize "index" = .ok 18446744073709551615 := by decide +kernel
  exact ⟨exact, taken, _, accepted, rfl⟩

end Sluice
