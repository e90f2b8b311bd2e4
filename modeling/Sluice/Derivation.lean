import Sluice.Routing.Field
import Sluice.Script.Engine

/-!
# Deriving fields

The rules compute fields of a record in order, each from what the record holds by then.
-/

set_option autoImplicit false

namespace Sluice

structure DeriveRule where
  expression : String
  field : String
  deriving DecidableEq, Repr

structure CompiledDerivation where
  engine : Script.Engine
  rules : List (Script.Handle × String)

namespace DeriveRule

/-- Reads the items of a list in order; the keys of an item are not told apart by its index. -/
def readAll : Nat → List Json → Outcome (List DeriveRule)
  | _, [] => .ok []
  | index, item :: rest => do
    let rule ← Settings.ofItem item FieldRouting.rulesKey index
    let expression ← rule.requiredText "jsExpression"
    let field ← rule.requiredText "outputField"
    .ok (⟨expression, field⟩ :: (← readAll (index + 1) rest))

def ofSettings (settings : Settings) : Outcome (List DeriveRule) := do
  readAll 0 (← settings.requiredList FieldRouting.rulesKey)

def compile (rules : List DeriveRule) : Outcome CompiledDerivation := do
  let (handles, engine) := Script.Engine.empty.compileAll 0 (rules.map (·.expression))
  .ok ⟨engine, (← handles).zip (rules.map (·.field))⟩

end DeriveRule

/-- Applies rules to a record until one fails: the outcome, and the record with what the rules
before it have set. -/
def deriveWith (engine : Script.Engine) :
    List (Script.Handle × String) → Record → Outcome Unit × Record
  | [], record => (.ok (), record)
  | (handle, field) :: rest, record =>
    match engine.valueOf handle record with
    | .ok value => deriveWith engine rest (record.set field value)
    | .error failure => (.error failure, record)

def CompiledDerivation.apply (derivation : CompiledDerivation) (record : Record) :
    Outcome Unit × Record :=
  deriveWith derivation.engine derivation.rules record

def CompiledDerivation.handle (derivation : CompiledDerivation) (entry : Entry) : Run Unit := do
  let (outcome, record) := derivation.apply (← Run.ofOutcome entry.asRecord)
  Run.ofOutcome outcome
  Run.writeRecord defaultPort record

def DeriveRule.settle (settings : Settings) : Outcome Stage := do
  let rules ← ofSettings settings
  let policy ← settings.entryPolicy
  let derivation ← compile rules
  .ok (.handling policy derivation.handle)

end Sluice
