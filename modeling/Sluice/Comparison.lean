import Sluice.Failure
import Sluice.Pattern.Search
import Sluice.Record

/-!
# Comparing values

The kind of the left value decides how two values are compared: as texts, as integers or as
floats; the right value is coerced to that kind.  A text that is no number counts as zero.  A rule
compares a field of a record and names the port of the records for which the comparison holds.
-/

set_option autoImplicit false

namespace Sluice

inductive Operator where
  | lt
  | le
  | eq
  | ne
  | gt
  | ge
  /-- The right text is a pattern that is sought in the left one. -/
  | regex
  deriving DecidableEq, Repr

namespace Operator

def all : List Operator := [lt, le, eq, ne, gt, ge, regex]

def symbol : Operator → String
  | lt => "<"
  | le => "<="
  | eq => "=="
  | ne => "!="
  | gt => ">"
  | ge => ">="
  | regex => "regex"

def ofSymbol (symbol : String) : Outcome Operator :=
  match all.find? (·.symbol = symbol) with
  | some operator => .ok operator
  | none => .error (.unsupported ("unknown comparison operator '" ++ symbol ++ "'"))

end Operator

/-! ## Coercion -/

def coercionFault (expected : String) (value : Value) : Failure :=
  .typeMismatch expected value.kind

def Value.coerceText (value : Value) : Outcome String :=
  match value with
  | .null => .error (coercionFault "a value coercible to string" value)
  | _ => .ok value.display

def readIntOrZero (text : String) : Int64 := (readInt text).toOption.getD 0

/-- A float is rounded by writing it without a fraction and reading that text. -/
def Value.coerceInt (value : Value) : Outcome Int64 :=
  match value with
  | .text s => .ok (readIntOrZero s)
  | .int n => .ok n
  | .float x => .ok (readIntOrZero x.wholeText)
  | _ => .error (coercionFault "a value coercible to integer" value)

def Value.coerceFloat (value : Value) : Outcome Binary64 :=
  match value with
  | .text s => .ok ((readDecimal s).toOption.getD .zero)
  | .int n => .ok (Binary64.ofInt n.toInt)
  | .float x => .ok x
  | _ => .error (coercionFault "a value coercible to float" value)

/-! ## Comparison -/

structure ValueOrder (α : Type) where
  lt : α → α → Bool
  le : α → α → Bool
  eq : α → α → Bool

def textOrder : ValueOrder String :=
  ⟨fun a b => decide (a < b), fun a b => decide (a ≤ b), fun a b => decide (a = b)⟩

def intOrder : ValueOrder Int64 :=
  ⟨fun a b => decide (a < b), fun a b => decide (a ≤ b), fun a b => decide (a = b)⟩

def floatOrder : ValueOrder Binary64 := ⟨Binary64.lt, Binary64.le, Binary64.same⟩

def ValueOrder.holds {α : Type} (order : ValueOrder α) (operator : Operator) (left right : α) :
    Outcome Bool :=
  match operator with
  | .lt => .ok (order.lt left right)
  | .le => .ok (order.le left right)
  | .eq => .ok (order.eq left right)
  | .ne => .ok (!order.eq left right)
  | .gt => .ok (order.lt right left)
  | .ge => .ok (order.le right left)
  | .regex => .error (.unsupported "regex operator requires a string field")

/-- The searcher of a pattern, or the failure of a malformed one. -/
def searcherOf (pattern : String) : Outcome Pattern.Searcher :=
  match Pattern.compile? pattern with
  | some searcher => .ok searcher
  | none => .error .pattern

def compareValues (left : Value) (operator : Operator) (right : Value) : Outcome Bool :=
  match left with
  | .text l => do
    let r ← right.coerceText
    match operator with
    | .regex => (searcherOf r).map (·.occursIn l)
    | _ => textOrder.holds operator l r
  | .int l => do intOrder.holds operator l (← right.coerceInt)
  | .float l => do floatOrder.holds operator l (← right.coerceFloat)
  | _ => .error (.typeMismatch "string, integer or float field" left.kind)

/-! ## Rules -/

inductive Operand where
  | literal (value : Value)
  /-- The value of another field. -/
  | field (name : String)

/-- A record goes to `port` when its field compares as stated. -/
structure FieldRule where
  field : String
  operator : Operator
  operand : Operand
  port : String
  /-- The pattern of a literal operand, compiled once. -/
  searcher? : Option Pattern.Searcher

namespace FieldRule

/-- A rule; the pattern of a literal operand must be well formed. -/
def make (field : String) (operator : Operator) (operand : Operand) (port : String) :
    Outcome FieldRule :=
  match operator, operand with
  | .regex, .literal value => do
    let searcher ← searcherOf (← value.coerceText)
    .ok ⟨field, operator, operand, port, some searcher⟩
  | _, _ => .ok ⟨field, operator, operand, port, none⟩

def right (rule : FieldRule) (record : Record) : Value :=
  match rule.operand with
  | .literal value => value
  | .field name => record.getOrNull name

/-- The rule holds of a record; a missing field is null. -/
def holds (rule : FieldRule) (record : Record) : Outcome Bool :=
  let left := record.getOrNull rule.field
  match rule.searcher?, left with
  | some searcher, .text l => .ok (searcher.occursIn l)
  | _, _ => compareValues left rule.operator (rule.right record)

end FieldRule

/-- The port of the first rule that holds, or the default port. -/
def routePort (rules : List FieldRule) (default : String) (record : Record) : Outcome String :=
  match rules with
  | [] => .ok default
  | rule :: rest => do
    if ← rule.holds record then .ok rule.port else routePort rest default record

end Sluice
