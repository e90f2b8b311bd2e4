import Sluice.Comparison
import Sluice.Exchange
import Sluice.Flow.Stage
import Sluice.Table.Column

/-!
# Routing by field

Each record goes to the port of the first rule that holds of it, or to the default port.
-/

set_option autoImplicit false

namespace Sluice

structure FieldRouting where
  defaultPort : String
  rules : List FieldRule

namespace FieldRouting

def defaultPortKey : String := "defaultOutputPort"
def rulesKey : String := "rules"
def portKey : String := "outputPort"

/-- The operand of a rule: a literal, or the name of a field. -/
def readOperand (value : Json) : Option String → Outcome Operand
  | none => .ok (.literal (Value.ofJson value))
  | some "literal" => .ok (.literal (Value.ofJson value))
  | some "field" =>
    match value with
    | .text name => .ok (.field name)
    | _ => .error (.settings "value" "must name a field when valueType is \"field\"")
  | some other =>
    .error (.settings "valueType"
      ("expected \"literal\" or \"field\", got \"" ++ other ++ "\""))

/-- A malformed pattern is a fault of the rule's value. -/
def blameValue : Failure → Failure
  | .pattern => .settings "value" "invalid pattern"
  | failure => failure

def readRule (rule : Settings) : Outcome FieldRule := do
  let field ← rule.requiredText "field"
  let operator ← Operator.ofSymbol (← rule.requiredText "op")
  let value ← rule.required "value"
  let port ← rule.requiredText portKey
  let operand ← readOperand value (← rule.optionalText "valueType")
  (FieldRule.make field operator operand port).mapError blameValue

def ofSettings (settings : Settings) : Outcome FieldRouting := do
  let defaultPort ← settings.requiredText defaultPortKey
  let rules ← Settings.readItems rulesKey readRule 0 (← settings.requiredList rulesKey)
  .ok ⟨defaultPort, rules⟩

/-- Sends a record to the port that the rules on its fields choose. -/
def handle (routing : FieldRouting) (entry : Entry) : Run Unit := do
  let record ← Run.ofOutcome entry.asRecord
  let port ← Run.ofOutcome (routePort routing.rules routing.defaultPort record)
  Run.writeRecord port record

def settle (settings : Settings) : Outcome Stage := do
  let routing ← ofSettings settings
  let policy ← settings.entryPolicy
  .ok (.handling policy routing.handle)

end FieldRouting

end Sluice
