import Sluice.Disk.Path
import Sluice.Failure
import Sluice.Record
import Sluice.Script.Evaluation
import Sluice.Script.Folding
import Sluice.Script.Parsing

/-!
# Compiled expressions

An engine keeps the trees of the sources that it compiled under names of their own.  A handle is
such a name together with its source; an engine evaluates its own handles and refuses all others.
-/

set_option autoImplicit false

namespace Sluice

namespace Script

/-- The simplified tree of a source that is in plain form. -/
def compilePlain? (source : List Char) : Option Expr := (parse? source).map Expr.fold

def compile? (source : String) : Option Expr := compilePlain? (plainSource source.toList)

/-- How often an evaluated text may evaluate a text. -/
def runMax : Nat := 16

def environment (find : String → Option Datum) : Nat → Environment
  | 0 => ⟨find, fun _ => .error .unknownFunction⟩
  | depth + 1 =>
    ⟨find, fun text =>
      if isBlankText text then .ok .unit
      else
        match compilePlain? text.toList with
        | some tree => tree.eval (environment find depth)
        | none => .error .malformed⟩

/-- The variables of a record: its fields, and the whole of it as the map `data` unless a field has
that name. -/
def recordVariable (record : Record) (name : String) : Option Datum :=
  match record.get? name with
  | some value => some (.ofValue value)
  | none =>
    if name = "data" then
      some (Datum.ofEntries (record.fields.map fun field => (field.1, .ofValue field.2)))
    else none

def recordEnvironment (record : Record) : Environment :=
  environment (recordVariable record) runMax

/-- A file as rules see it: its name twice, and the extension of the name. -/
def fileRecord (filename : String) : Record :=
  Record.ofPairs [("filename", .text filename), ("Filename", .text filename),
    ("extension", .text (Path.extension filename))]

structure Handle where
  name : String
  source : String
  deriving DecidableEq, Repr

/-- The name of the rule with a serial number. -/
def ruleName (serial : Nat) : String :=
  let digits := Nat.toDigits 16 serial
  "rule_" ++ String.ofList (List.replicate (32 - digits.length) '0' ++ digits)

structure Engine where
  compiled : List (String × Expr)
  deriving Inhabited

namespace Engine

def empty : Engine := ⟨[]⟩

def size (engine : Engine) : Nat := engine.compiled.length

/-- Compiles a source under the name of a serial number that was not used before. -/
def compile (engine : Engine) (serial : Nat) (source : String) : Outcome (Handle × Engine) :=
  match compile? source with
  | some tree =>
    let name := ruleName serial
    .ok (⟨name, source⟩, ⟨engine.compiled ++ [(name, tree)]⟩)
  | none => .error (.script source .malformed)

/-- Compiles sources in order up to the first that fails; those before it stay compiled. -/
def compileAll (engine : Engine) (serial : Nat) : List String → Outcome (List Handle) × Engine
  | [] => (.ok [], engine)
  | source :: rest =>
    match engine.compile serial source with
    | .error failure => (.error failure, engine)
    | .ok (handle, engine) =>
      let (handles, engine) := engine.compileAll (serial + 1) rest
      (handles.map (handle :: ·), engine)

def evaluate (engine : Engine) (handle : Handle) (env : Environment) : Outcome Datum :=
  match engine.compiled.lookup handle.name with
  | none =>
    .error (.unsupported ("rule '" ++ handle.name ++ "' was not compiled by this engine"))
  | some tree =>
    match tree.eval env with
    | .ok value => .ok value
    | .error fault => .error (.script handle.source fault)

def valueOf (engine : Engine) (handle : Handle) (record : Record) : Outcome Value :=
  (engine.evaluate handle (recordEnvironment record)).map Datum.toValue

def test (engine : Engine) (handle : Handle) (record : Record) : Outcome Bool :=
  (engine.evaluate handle (recordEnvironment record)).map Datum.truth

def fileValueOf (engine : Engine) (handle : Handle) (filename : String) : Outcome Value :=
  engine.valueOf handle (fileRecord filename)

def testFile (engine : Engine) (handle : Handle) (filename : String) : Outcome Bool :=
  engine.test handle (fileRecord filename)

end Engine

end Script

end Sluice
