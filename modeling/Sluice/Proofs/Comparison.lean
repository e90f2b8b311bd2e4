import Sluice.Comparison
import Sluice.Proofs.Ndjson
import Sluice.Proofs.Script.Spelling

/-!
# Comparing with a literal

A comparison of a field with an integer or a text, made of the values themselves and stated as an
expression.  Both come to the same for a record that holds a value of the literal's kind.
-/

set_option autoImplicit false

namespace Sluice

/-! ## Operators -/

inductive SharedOperator where
  | lt
  | le
  | eq
  | ne
  | gt
  | ge
  deriving DecidableEq, Repr

namespace SharedOperator

def ofRule : SharedOperator → Operator
  | lt => .lt
  | le => .le
  | eq => .eq
  | ne => .ne
  | gt => .gt
  | ge => .ge

def ofExpression : SharedOperator → Script.BinaryOperator
  | lt => .lt
  | le => .le
  | eq => .eq
  | ne => .ne
  | gt => .gt
  | ge => .ge

theorem spelled (operator : SharedOperator) (afterOperand : Bool) :
    (Script.Token.operator operator.ofExpression).Spelled afterOperand
      operator.ofRule.symbol.toList := by
  intro fuel rest ends
  cases rest with
  | nil => cases operator <;> rfl
  | cons c rest =>
      obtain rfl := ends c rfl
      cases operator <;> rfl

def accepts : SharedOperator → Script.Comparison → Bool
  | eq, outcome => outcome = .equal
  | ne, outcome => outcome ≠ .equal
  | operator, outcome => Script.orderingHolds operator.ofExpression outcome

end SharedOperator

/-! ## Orders -/

structure ValueOrder.Linear {α : Type} (order : ValueOrder α) : Prop where
  le_eq : ∀ a b, order.le a b = !order.lt b a
  eq_eq : ∀ a b, order.eq a b = (!order.lt a b && !order.lt b a)
  asymm : ∀ a b, order.lt a b = true → order.lt b a = false

def ValueOrder.outcome {α : Type} (order : ValueOrder α) (a b : α) : Script.Comparison :=
  if order.lt a b then .less else if order.lt b a then .greater else .equal

theorem ValueOrder.Linear.holds_eq {α : Type} {order : ValueOrder α} (linear : order.Linear)
    (operator : SharedOperator) (a b : α) :
    order.holds operator.ofRule a b = .ok (operator.accepts (order.outcome a b)) := by
  have notBoth := linear.asymm a b
  cases less : order.lt a b <;> cases more : order.lt b a
  case true.true => cases (notBoth less).symm.trans more
  all_goals
    cases operator <;>
      simp [ValueOrder.holds, SharedOperator.ofRule, SharedOperator.accepts, linear.le_eq,
        linear.eq_eq, outcome, SharedOperator.ofExpression, Script.orderingHolds, less, more]

theorem intOrder_linear : intOrder.Linear where
  le_eq a b := by
    simp only [intOrder, Int64.le_iff_toInt_le, Int64.lt_iff_toInt_lt, ← Int.not_lt, decide_not]
  eq_eq a b := by
    simp only [intOrder, Int64.lt_iff_toInt_lt, ← Int64.toInt_inj]
    grind
  asymm a b := by
    simp only [intOrder, Int64.lt_iff_toInt_lt, decide_eq_true_eq, decide_eq_false_iff_not]
    omega

theorem textOrder_linear : textOrder.Linear where
  le_eq a b := by
    simp only [textOrder, ← String.not_lt, decide_not]
  eq_eq a b := by
    simp only [textOrder]
    have antisymm := String.le_antisymm (a := a) (b := b)
    grind
  asymm a b := by
    simp only [textOrder, decide_eq_true_eq, decide_eq_false_iff_not]
    exact String.lt_asymm

/-! ## Literals -/

inductive Literal where
  | int (number : Int64)
  | text (text : String)
  deriving DecidableEq, Repr

namespace Literal

def value : Literal → Value
  | int n => .int n
  | text s => .text s

/-- How an expression states the literal: a text in single quotes, with a backslash before each
backslash and each single quote in it. -/
def stated : Literal → String
  | int n => Value.intText n
  | text s => String.ofList ('\'' :: s.toList.flatMap (Script.shownIn '\'') ++ ['\''])

/-- The literal can be stated: a text is on one line. -/
def Statable : Literal → Prop
  | int _ => True
  | text s => '\n' ∉ s.toList

instance : DecidablePred Statable := fun literal => by
  cases literal <;> unfold Statable <;> infer_instance

inductive SameKind : Literal → Value → Prop where
  | ints (n m : Int64) : SameKind (int n) (.int m)
  | texts (s t : String) : SameKind (text s) (.text t)

def token : Literal → Script.Token
  | int n => .int n
  | text s => .text s

def plain : Literal → List Char
  | int n => (Value.intText n).toList
  | text s => '"' :: s.toList.flatMap (Script.shownIn '"') ++ ['"']

theorem plainSource_stated (literal : Literal) :
    Script.plainSource literal.stated.toList = literal.plain := by
  cases literal with
  | int n =>
      obtain ⟨negative, digits, ⟨_, all⟩, text⟩ := Script.intText_digits n
      have kept : (Value.intText n).toList.all Script.isPlain = true := by
        rw [text, List.all_append, Bool.and_eq_true]
        refine ⟨by cases negative <;> decide, List.all_eq_true.2 fun c member => ?_⟩
        exact Script.isPlain_of_nameChar
          (Script.isNameChar_of_digit (List.all_eq_true.1 all c member))
      have whole := Script.plainSource_append kept []
      rw [List.append_nil] at whole
      rw [stated, whole, Script.plainSource, List.append_nil, plain]
  | text s =>
      rw [stated, String.toList_ofList, List.cons_append, Script.plainSource,
        Script.singleQuoted_shownIn, plain, List.cons_append]

theorem spelled {literal : Literal} (statable : literal.Statable) :
    literal.token.Spelled false literal.plain := by
  cases literal with
  | int n => exact Script.spelled_int n
  | text s => exact Script.spelled_text statable false

end Literal

/-! ## Rules with a literal -/

structure LiteralRule where
  field : String
  operator : SharedOperator
  literal : Literal
  port : String
  deriving DecidableEq, Repr

namespace LiteralRule

def condition (rule : LiteralRule) : String :=
  rule.field ++ " " ++ rule.operator.ofRule.symbol ++ " " ++ rule.literal.stated

structure Statable (rule : LiteralRule) : Prop where
  field : Script.isVariableName rule.field = true
  literal : rule.literal.Statable

/-- The record holds a value of the literal's kind in the field. -/
def Suits (rule : LiteralRule) (record : Record) : Prop :=
  ∃ value, record.get? rule.field = some value ∧ rule.literal.SameKind value

theorem plainSource_condition {rule : LiteralRule} (statable : rule.Statable) :
    Script.plainSource rule.condition.toList =
      rule.field.toList ++
        ' ' :: (rule.operator.ofRule.symbol.toList ++ ' ' :: rule.literal.plain) := by
  have chars := Script.isPlain_of_legal statable.field
  have symbol : ∀ rest,
      Script.plainSource (rule.operator.ofRule.symbol.toList ++ ' ' :: rest) =
        rule.operator.ofRule.symbol.toList ++ ' ' :: Script.plainSource rest := by
    intro rest
    cases rule.operator <;> rfl
  have text : rule.condition.toList = rule.field.toList ++
      ' ' :: (rule.operator.ofRule.symbol.toList ++ ' ' :: rule.literal.stated.toList) := by
    simp [condition]
  rw [text, Script.plainSource_append chars, Script.plainSource_cons (by decide), symbol,
    Literal.plainSource_stated]

def tree (rule : LiteralRule) : Script.Expr :=
  .binary rule.operator.ofExpression (.reference rule.field)
    (.constant (.ofValue rule.literal.value))

theorem compile?_condition {rule : LiteralRule} (statable : rule.Statable) :
    Script.compile? rule.condition = some rule.tree := by
  have tokens : Script.tokens? (Script.plainSource rule.condition.toList) =
      some [.name rule.field, .operator rule.operator.ofExpression, rule.literal.token] := by
    rw [plainSource_condition statable]
    refine Script.tokens?_spaced (Script.spelled_name statable.field false)
      (rule.operator.spelled _) ?_
    exact Literal.spelled statable.literal
  have noUnary : rule.literal.token.unary? = none := by cases rule.literal <;> rfl
  have constant : ∀ fuel depth, Script.parseRoot (fuel + 1) depth [rule.literal.token] =
      some (.constant (.ofValue rule.literal.value), []) := by
    intro fuel depth
    cases rule.literal <;>
      simp [Literal.token, Literal.value, Script.parseRoot, Script.Datum.ofValue]
  have parses := Script.parseExpr_binary statable.field rule.operator.ofExpression
    noUnary constant
  exact Script.compilePlain?_of_parse tokens fun fuel depth => parses (fuel + 2) depth

/-! ## What the comparison comes to -/

def truth (rule : LiteralRule) (record : Record) : Bool :=
  match record.getOrNull rule.field, rule.literal with
  | .int a, .int b => rule.operator.accepts (intOrder.outcome a b)
  | .text a, .text b => rule.operator.accepts (textOrder.outcome a b)
  | _, _ => false

def native (rule : LiteralRule) : FieldRule :=
  ⟨rule.field, rule.operator.ofRule, .literal rule.literal.value, rule.port, none⟩

theorem make_native (rule : LiteralRule) :
    FieldRule.make rule.field rule.operator.ofRule (.literal rule.literal.value) rule.port =
      .ok rule.native := by
  rw [FieldRule.make.eq_def, native]
  cases rule.operator <;> rfl

variable {rule : LiteralRule} {record : Record}

theorem native_holds (suits : rule.Suits record) :
    rule.native.holds record = .ok (rule.truth record) := by
  obtain ⟨value, found, same⟩ := suits
  obtain ⟨field, operator, literal, port⟩ := rule
  have present : record.getOrNull field = value := by rw [Record.getOrNull, found]; rfl
  simp only [FieldRule.holds, native, truth, present, FieldRule.right, compareValues]
  cases same with
  | ints n m => exact intOrder_linear.holds_eq operator m n
  | texts s t =>
      have holds := textOrder_linear.holds_eq operator t s
      cases operator <;> exact holds

/-- Between data that can be ordered, an operator of comparison looks at the outcome alone. -/
theorem apply_of_outcome (operator : SharedOperator) {a b : Script.Datum}
    {outcome : Script.Comparison} (compares : Script.compareData? a b = some outcome)
    (equal : a.same b = decide (outcome = .equal)) :
    operator.ofExpression.apply a b = .ok (.bool (operator.accepts outcome)) := by
  cases operator <;>
    simp [SharedOperator.ofExpression, Script.BinaryOperator.apply, Script.isComparison,
      Script.compareOperation, equal, compares, SharedOperator.accepts]

theorem eval_tree (suits : rule.Suits record) :
    rule.tree.eval (Script.recordEnvironment record) = .ok (.bool (rule.truth record)) := by
  obtain ⟨value, found, same⟩ := suits
  obtain ⟨field, operator, literal, port⟩ := rule
  have present : record.getOrNull field = value := by rw [Record.getOrNull, found]; rfl
  have reads : (Script.recordEnvironment record).read field = .ok (.ofValue value) := by
    have bound : (Script.recordEnvironment record).find field = some (.ofValue value) := by
      show Script.recordVariable record field = _
      rw [Script.recordVariable, found]
    rw [Script.Environment.read, bound]
  have applied : (tree ⟨field, operator, literal, port⟩).eval (Script.recordEnvironment record) =
      operator.ofExpression.apply (.ofValue value) (.ofValue literal.value) := by
    simp only [tree, Script.Expr.eval, Script.Expr.isReference, Script.ordered, reads]
    rfl
  rw [applied, truth, present]
  cases same with
  | ints n m =>
      have compares : Script.compareData? (.int m) (.int n) = some (intOrder.outcome m n) := by
        simp [Script.compareData?, Script.compareInts, intOrder, ValueOrder.outcome]
      have equal : (Script.Datum.int m).same (.int n) =
          decide (intOrder.outcome m n = .equal) := by
        simp [Script.Datum.same, compares]
      exact apply_of_outcome operator compares equal
  | texts s t =>
      have compares : Script.compareData? (.text t) (.text s) = some (textOrder.outcome t s) := by
        simp [Script.compareData?, Script.compareTexts, textOrder, ValueOrder.outcome]
      have equal : (Script.Datum.text t).same (.text s) =
          decide (textOrder.outcome t s = .equal) := by
        simp [Script.Datum.same, compares]
      exact apply_of_outcome operator compares equal

end LiteralRule

end Sluice
