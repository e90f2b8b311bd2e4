import Sluice.Number.Layout
import Sluice.Number.Reading
import Sluice.Time.Moment

/-!
# Field values

The kinds of values that a record field can hold, their names and their texts.
-/

set_option autoImplicit false

namespace Sluice

inductive Value where
  | text (text : String)
  | int (number : Int64)
  | float (number : Binary64)
  | bool (truth : Bool)
  | moment (moment : Moment)
  | null
  deriving DecidableEq, Repr, Inhabited

namespace Value

def kind : Value → String
  | text _ => "string"
  | int _ => "integer"
  | float _ => "float"
  | bool _ => "boolean"
  | moment _ => "datetime"
  | null => "null"

def intText (n : Int64) : String := toString n.toInt

def boolText (b : Bool) : String := if b then "true" else "false"

/-- The text of a value; nothing at all for null. -/
def display : Value → String
  | text s => s
  | int n => intText n
  | float x => NumberLayout.plain.write x
  | bool b => boolText b
  | moment m => m.text
  | null => ""

/-- Equal values are of one kind; a not-a-number is not equal to itself, and moments are compared
as instants. -/
def same : Value → Value → Bool
  | text a, text b => decide (a = b)
  | int a, int b => decide (a = b)
  | float a, float b => a.same b
  | bool a, bool b => decide (a = b)
  | moment a, moment b => a.sameInstant b
  | null, null => true
  | _, _ => false

end Value

end Sluice
