import Sluice.Json.Reading
import Sluice.Record

/-!
# Records as JSON

A record is written as an object in the order of its fields.  Read back, a number is an integer
when it fits 64 bits with sign, and a nested list or object is kept as its text.
-/

set_option autoImplicit false

namespace Sluice

def Value.toJson : Value → Json
  | .text s => .text s
  | .int n => .int n.toInt
  | .float x => .float x
  | .bool b => .bool b
  | .moment m => .text m.text
  | .null => .null

def Value.ofJson : Json → Value
  | .null => .null
  | .bool b => .bool b
  | .int n => if fitsInt64 n then .int (Int64.ofInt n) else .float (Binary64.ofInt n)
  | .float x => .float x
  | .text s => .text s
  | .list items => .text (Json.write (.list items))
  | .object members => .text (Json.write (.object members))

namespace Record

def toJson (r : Record) : Json := .object (r.fields.map fun pair => (pair.1, pair.2.toJson))

def ofMembers (members : Members) : Record :=
  ofPairs (members.map fun pair => (pair.1, Value.ofJson pair.2))

def ofJson? : Json → Option Record
  | .object members => some (ofMembers members)
  | _ => none

end Record

end Sluice
