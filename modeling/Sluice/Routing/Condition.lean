import Sluice.Routing.Field
import Sluice.Script.Engine

/-!
# Routing by condition

The rules are conditions, expressions over the fields of a record or over the name of a file.  All
of them are compiled before any entry is taken.  The first condition that is true chooses the port.
-/

set_option autoImplicit false

namespace Sluice

structure ConditionRule where
  condition : String
  port : String
  deriving DecidableEq, Repr

structure ConditionRouting where
  defaultPort : String
  rules : List ConditionRule
  deriving DecidableEq, Repr

structure CompiledRouting where
  defaultPort : String
  engine : Script.Engine
  routes : List (Script.Handle × String)

namespace ConditionRouting

/-- Reads the items of a list in order; the keys of an item are not told apart by its index. -/
def readRules : Nat → List Json → Outcome (List ConditionRule)
  | _, [] => .ok []
  | index, item :: rest => do
    let rule ← Settings.ofItem item FieldRouting.rulesKey index
    let condition ← rule.requiredText "jsCondition"
    let port ← rule.requiredText FieldRouting.portKey
    .ok (⟨condition, port⟩ :: (← readRules (index + 1) rest))

def ofSettings (settings : Settings) : Outcome ConditionRouting := do
  let defaultPort ← settings.requiredText FieldRouting.defaultPortKey
  let rules ← readRules 0 (← settings.requiredList FieldRouting.rulesKey)
  .ok ⟨defaultPort, rules⟩

def compile (routing : ConditionRouting) : Outcome CompiledRouting := do
  let (handles, engine) := Script.Engine.empty.compileAll 0 (routing.rules.map (·.condition))
  .ok ⟨routing.defaultPort, engine, (← handles).zip (routing.rules.map (·.port))⟩

end ConditionRouting

namespace CompiledRouting

def firstPort (default : String) (test : Script.Handle → Outcome Bool) :
    List (Script.Handle × String) → Outcome String
  | [] => .ok default
  | (handle, port) :: rest => do
    if ← test handle then .ok port else firstPort default test rest

def select (routing : CompiledRouting) (test : Script.Handle → Outcome Bool) : Outcome String :=
  firstPort routing.defaultPort test routing.routes

def portOfRecord (routing : CompiledRouting) (record : Record) : Outcome String :=
  routing.select fun handle => routing.engine.test handle record

def portOfFile (routing : CompiledRouting) (filename : String) : Outcome String :=
  routing.select fun handle => routing.engine.testFile handle filename

/-- Sends a record to the port that the conditions on its fields choose. -/
def handleRecord (routing : CompiledRouting) (entry : Entry) : Run Unit := do
  let record ← Run.ofOutcome entry.asRecord
  let port ← Run.ofOutcome (routing.portOfRecord record)
  Run.writeRecord port record

/-- Copies a file, byte for byte, to the port that the conditions on its name choose. -/
def handleFile (routing : CompiledRouting) (entry : Entry) : Run Unit := do
  let file ← Run.ofOutcome entry.asFile
  let port ← Run.ofOutcome (routing.portOfFile file.name)
  let _ ← Run.copyInto port file.name (← Run.deliver file)

end CompiledRouting

def ConditionRouting.settle (handle : CompiledRouting → Entry → Run Unit) (settings : Settings) :
    Outcome Stage := do
  let routing ← ofSettings settings
  let policy ← settings.entryPolicy
  let compiled ← routing.compile
  .ok (.handling policy (handle compiled))

end Sluice
