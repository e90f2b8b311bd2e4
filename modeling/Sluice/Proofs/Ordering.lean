import Sluice.Proofs.Comparison

/-!
# What the operators say together

The six operators of comparison agree on any two values: either none of them can compare the two, or
exactly one of less, equal and greater holds and the others follow from it.  Only what is not a
number is neither less, nor equal, nor greater.  Texts and integers are strictly ordered.
-/

set_option autoImplicit false

namespace Sluice

/-! ## Orders -/

structure ValueOrder.Strict {α : Type} (order : ValueOrder α) : Prop extends order.Linear where
  trans : ∀ a b c, order.lt a b = true → order.lt b c = true → order.lt a c = true
  eq_iff : ∀ a b, order.eq a b = true ↔ a = b

theorem intOrder_strict : intOrder.Strict where
  toLinear := intOrder_linear
  trans a b c := by
    simp only [intOrder, decide_eq_true_eq, Int64.lt_iff_toInt_lt]
    exact Int.lt_trans
  eq_iff a b := by simp only [intOrder, decide_eq_true_eq]

theorem textOrder_strict : textOrder.Strict where
  toLinear := textOrder_linear
  trans a b c := by
    simp only [textOrder, decide_eq_true_eq]
    exact String.lt_trans
  eq_iff a b := by simp only [textOrder, decide_eq_true_eq]

def placeOrder : ValueOrder Int :=
  ⟨fun a b => decide (a < b), fun a b => decide (a ≤ b), fun a b => decide (a = b)⟩

theorem placeOrder_linear : placeOrder.Linear where
  le_eq a b := by
    simp only [placeOrder, ← Int.not_lt, decide_not]
  eq_eq a b := by
    simp only [placeOrder]
    grind
  asymm a b := by
    simp only [placeOrder, decide_eq_true_eq, decide_eq_false_iff_not]
    omega

theorem comparable_comm (x y : Binary64) : Binary64.comparable x y = Binary64.comparable y x := by
  simp only [Binary64.comparable, Bool.and_comm]

/-- Numbers are compared by their places; what is not a number has no order. -/
theorem compareFloats_eq (x y : Binary64) :
    Script.compareFloats x y =
      if Binary64.comparable x y then placeOrder.outcome x.place y.place else .unordered := by
  have comm := comparable_comm x y
  cases numbers : Binary64.comparable x y with
  | true =>
      rw [numbers] at comm
      rcases Int.lt_trichotomy x.place y.place with less | same | greater
      · simp [Script.compareFloats, Binary64.lt, numbers, less, ValueOrder.outcome, placeOrder]
      · simp [Script.compareFloats, Binary64.lt, Binary64.same, numbers, same, ValueOrder.outcome,
          placeOrder]
      · have notLess : ¬ x.place < y.place := by omega
        simp [Script.compareFloats, Binary64.lt, numbers, ← comm, greater, notLess,
          ValueOrder.outcome, placeOrder]
  | false =>
      rw [numbers] at comm
      simp [Script.compareFloats, Binary64.lt, Binary64.same, numbers, ← comm]

theorem floatOrder_holds (operator : SharedOperator) (x y : Binary64) :
    floatOrder.holds operator.ofRule x y = .ok (operator.accepts (Script.compareFloats x y)) := by
  have comm := comparable_comm x y
  rw [compareFloats_eq]
  cases numbers : Binary64.comparable x y with
  | true =>
      rw [numbers] at comm
      rw [if_pos rfl, ← placeOrder_linear.holds_eq operator x.place y.place]
      cases operator <;>
        simp [ValueOrder.holds, SharedOperator.ofRule, floatOrder, placeOrder, Binary64.lt,
          Binary64.le, Binary64.same, numbers, ← comm]
  | false =>
      rw [numbers] at comm
      cases operator <;>
        simp [ValueOrder.holds, SharedOperator.ofRule, SharedOperator.ofExpression,
          SharedOperator.accepts, Script.orderingHolds, floatOrder, Binary64.lt, Binary64.le,
          Binary64.same, numbers, ← comm]

/-! ## Consistent verdicts -/

/-- Of less, equal and greater exactly one holds if the values are ordered, and none otherwise; the
other operators follow from these three. -/
structure Consistent (ordered : Bool) (holds : SharedOperator → Bool) : Prop where
  le_eq : holds .le = (holds .lt || holds .eq)
  ge_eq : holds .ge = (holds .gt || holds .eq)
  ne_eq : holds .ne = !holds .eq
  one_of : [SharedOperator.lt, .eq, .gt].countP holds = if ordered then 1 else 0

theorem consistent_outcome {α : Type} (order : ValueOrder α) (a b : α) :
    Consistent true fun operator => operator.accepts (order.outcome a b) := by
  have outcomes : order.outcome a b = .less ∨ order.outcome a b = .greater ∨
      order.outcome a b = .equal := by
    unfold ValueOrder.outcome
    split
    · exact .inl rfl
    · split
      · exact .inr (.inl rfl)
      · exact .inr (.inr rfl)
  rcases outcomes with outcome | outcome | outcome <;> rw [outcome] <;> constructor <;> rfl

theorem consistent_compareFloats (x y : Binary64) :
    Consistent (Binary64.comparable x y) fun operator =>
      operator.accepts (Script.compareFloats x y) := by
  rw [compareFloats_eq]
  cases Binary64.comparable x y with
  | true => exact consistent_outcome placeOrder x.place y.place
  | false => constructor <;> rfl

/-! ## Comparing two values -/

/-- The right value can be coerced to the kind of the left one, which has an order. -/
def Value.comparable : Value → Value → Bool
  | text _, null => false
  | text _, _ => true
  | int _, text _ => true
  | int _, int _ => true
  | int _, float _ => true
  | float _, text _ => true
  | float _, int _ => true
  | float _, float _ => true
  | _, _ => false

/-- The left value is a float, and it or the float that the right value is coerced to is not a
number. -/
def Value.unordered (left right : Value) : Bool :=
  match left, right.coerceFloat with
  | float x, .ok y => x.isNaN || y.isNaN
  | _, _ => false

inductive Compares (left right : Value) : Prop where
  | verdicts (holds : SharedOperator → Bool) (can : left.comparable right = true)
      (tells : ∀ operator : SharedOperator,
        compareValues left operator.ofRule right = .ok (holds operator))
      (consistent : Consistent (!left.unordered right) holds)
  | fault (failure : Failure) (cannot : left.comparable right = false)
      (fails : ∀ operator : SharedOperator,
        compareValues left operator.ofRule right = .error failure)

theorem Compares.of_text (l : String) {right : Value} {r : String}
    (coerced : right.coerceText = .ok r) (can : (Value.text l).comparable right = true) :
    Compares (.text l) right := by
  refine .verdicts _ can ?_ (consistent_outcome textOrder l r)
  intro operator
  have holds := textOrder_linear.holds_eq operator l r
  rw [compareValues, coerced]
  cases operator <;> exact holds

theorem Compares.of_int (l : Int64) {right : Value} {r : Int64}
    (coerced : right.coerceInt = .ok r) (can : (Value.int l).comparable right = true) :
    Compares (.int l) right := by
  refine .verdicts _ can ?_ (consistent_outcome intOrder l r)
  intro operator
  rw [compareValues, coerced]
  exact intOrder_linear.holds_eq operator l r

theorem Compares.of_float (l : Binary64) {right : Value} {r : Binary64}
    (coerced : right.coerceFloat = .ok r) (can : (Value.float l).comparable right = true) :
    Compares (.float l) right := by
  have ordered : (!(Value.float l).unordered right) = Binary64.comparable l r := by
    simp [Value.unordered, coerced, Binary64.comparable]
  refine .verdicts _ can ?_ (ordered ▸ consistent_compareFloats l r)
  intro operator
  rw [compareValues, coerced]
  exact floatOrder_holds operator l r

theorem compares_text (l : String) (right : Value) : Compares (.text l) right := by
  cases right with
  | null => exact .fault _ rfl fun operator => by cases operator <;> rfl
  | text s => exact .of_text l rfl rfl
  | int n => exact .of_text l rfl rfl
  | float x => exact .of_text l rfl rfl
  | bool b => exact .of_text l rfl rfl
  | moment m => exact .of_text l rfl rfl

theorem compares_int (l : Int64) (right : Value) : Compares (.int l) right := by
  cases right with
  | text s => exact .of_int l rfl rfl
  | int n => exact .of_int l rfl rfl
  | float x => exact .of_int l rfl rfl
  | null | bool | moment => exact .fault _ rfl fun operator => rfl

theorem compares_float (l : Binary64) (right : Value) : Compares (.float l) right := by
  cases right with
  | text s => exact .of_float l rfl rfl
  | int n => exact .of_float l rfl rfl
  | float x => exact .of_float l rfl rfl
  | null | bool | moment => exact .fault _ rfl fun operator => rfl

/-! ## Strictly ordered values -/

structure StrictlyOrdered {α : Type} (make : α → Value) : Prop where
  irrefl : ∀ a, compareValues (make a) .lt (make a) = .ok false
  trans : ∀ a b c, compareValues (make a) .lt (make b) = .ok true →
    compareValues (make b) .lt (make c) = .ok true → compareValues (make a) .lt (make c) = .ok true
  converse : ∀ a b, compareValues (make a) .lt (make b) = compareValues (make b) .gt (make a)
  total : ∀ a b, a ≠ b → compareValues (make a) .lt (make b) = .ok true ∨
    compareValues (make b) .lt (make a) = .ok true
  eq_iff : ∀ a b, compareValues (make a) .eq (make b) = .ok true ↔ a = b

/-- Values that are compared by a strict order are strictly ordered. -/
theorem ValueOrder.Strict.strictlyOrdered {α : Type} {order : ValueOrder α} (strict : order.Strict)
    {make : α → Value}
    (compared : ∀ a b, ∀ operator : SharedOperator,
      compareValues (make a) operator.ofRule (make b) = order.holds operator.ofRule a b) :
    StrictlyOrdered make := by
  have lt (a b : α) : compareValues (make a) .lt (make b) = .ok (order.lt a b) := compared a b .lt
  have gt (a b : α) : compareValues (make a) .gt (make b) = .ok (order.lt b a) := compared a b .gt
  have eq (a b : α) : compareValues (make a) .eq (make b) = .ok (order.eq a b) := compared a b .eq
  have lt_iff (a b : α) : compareValues (make a) .lt (make b) = .ok true ↔ order.lt a b = true := by
    rw [lt]
    simp
  constructor
  case irrefl =>
    intro a
    have same := (strict.eq_iff a a).mpr rfl
    rw [strict.eq_eq] at same
    rw [lt]
    simpa using same
  case trans =>
    intro a b c
    simpa only [lt_iff] using strict.trans a b c
  case converse =>
    intro a b
    rw [lt, gt]
  case total =>
    intro a b different
    have notSame := mt (strict.eq_iff a b).mp different
    rw [strict.eq_eq] at notSame
    simp only [lt_iff]
    cases less : order.lt a b
    · exact .inr (by simpa [less] using notSame)
    · exact .inl rfl
  case eq_iff =>
    intro a b
    rw [← strict.eq_iff a b, eq]
    simp

/-- On any two values the operators of comparison all fail alike, or tell the same about the two;
texts and integers are strictly ordered. -/
theorem operators_consistent :
    (∀ left right : Value, Compares left right) ∧
      StrictlyOrdered Value.text ∧ StrictlyOrdered Value.int := by
  refine ⟨?_, ?_, ?_⟩
  · intro left right
    -- The kind of the left value says which order is asked for.
    cases left with
    | text l => exact compares_text l right
    | int l => exact compares_int l right
    | float l => exact compares_float l right
    | null | bool | moment => exact .fault _ rfl fun operator => rfl
  · apply textOrder_strict.strictlyOrdered
    intro a b operator
    cases operator <;> rfl
  · apply intOrder_strict.strictlyOrdered
    intro a b operator
    rfl

/-- What is not a number differs from itself and is not ordered. -/
example : compareValues (.float .nan) .ne (.float .nan) = .ok true ∧
    compareValues (.float .nan) .le (.float .nan) = .ok false := by
  constructor <;> rfl

end Sluice
