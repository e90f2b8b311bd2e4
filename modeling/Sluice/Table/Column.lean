import Sluice.Settings
import Sluice.Time.Reading
import Sluice.Value

/-!
# Columns

A column of a table has a datatype, a format for dates, and the field that its cells fill.  Texts
are kept as they stand, numbers are read as they stand, and dates are trimmed first.
-/

set_option autoImplicit false

namespace Sluice

inductive Datatype where
  | text
  | integer
  | decimal
  | date
  deriving DecidableEq, Repr

namespace Datatype

def name : Datatype → String
  | text => "string"
  | integer => "integer"
  | decimal => "decimal"
  | date => "date"

def datatypeKey : String := "datatype"

def ofName (name : String) : Outcome Datatype :=
  if name = "string" then .ok text
  else if name = "integer" then .ok integer
  else if name = "decimal" then .ok decimal
  else if name = "date" then .ok date
  else .error (.settings datatypeKey
    ("unsupported datatype '" ++ name ++ "' (expected string, integer, decimal or date)"))

end Datatype

/-- How a cell becomes the value of a field. -/
structure Conversion where
  datatype : Datatype
  format : String
  field : String
  deriving DecidableEq, Repr

namespace Conversion

def fieldKey : String := "fieldName"

/-- The conversion that a column's settings describe.  The field may be left empty where it is
optional. -/
def ofSettings (column : Settings) (fieldOptional : Bool) : Outcome Conversion := do
  let datatype ← Datatype.ofName (← column.requiredText Datatype.datatypeKey)
  let format := (← column.optionalText "format").getD ""
  let field ←
    if fieldOptional then (column.optionalText fieldKey).map fun name => name.getD ""
    else column.requiredText fieldKey
  .ok ⟨datatype, format, field⟩

def fault (conversion : Conversion) (raw reason : String) : Failure :=
  .conversion conversion.field conversion.datatype.name raw reason

def convert (conversion : Conversion) (raw : String) : Outcome Value :=
  match conversion.datatype with
  | .text => .ok (.text raw)
  | .integer =>
    match readInt raw with
    | .ok n => .ok (.int n)
    | .error e => .error (conversion.fault raw e.message)
  | .decimal =>
    match readDecimal raw with
    | .ok x => .ok (.float x)
    | .error e => .error (conversion.fault raw e.message)
  | .date =>
    match readMoment conversion.format (trimText raw) with
    | .ok m => .ok (.moment m)
    | .error e => .error (conversion.fault raw e.message)

end Conversion

/-- Names the item of a list in a failure of its settings. -/
def Failure.within (key : String) (index : Nat) : Failure → Failure
  | .settings inner reason => .settings (Settings.itemKey key index ++ "." ++ inner) reason
  | failure => failure

/-- Reads the items of a list in order; the first that fails decides. -/
def Settings.readItems {α : Type} (key : String) (read : Settings → Outcome α) :
    Nat → List Json → Outcome (List α)
  | _, [] => .ok []
  | index, item :: rest => do
    let first ← read (← Settings.ofItem item key index) |>.mapError (Failure.within key index)
    .ok (first :: (← Settings.readItems key read (index + 1) rest))

def Settings.columns {α : Type} (settings : Settings) (read : Settings → Outcome α) :
    Outcome (List α) := do
  Settings.readItems "columns" read 0 (← settings.requiredList "columns")

end Sluice
