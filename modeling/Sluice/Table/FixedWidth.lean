import Sluice.Table.Delimited
import Sluice.Text.Lines

/-!
# Reading columns of fixed width

A column takes the bytes from its start up to its end out of every line; what it takes is trimmed
and converted.  Blank lines are skipped, and lines are counted from one, all of them.
-/

set_option autoImplicit false

namespace Sluice

structure FixedWidthColumn where
  start : Nat
  length : Nat
  conversion : Conversion
  deriving DecidableEq, Repr

namespace FixedWidthColumn

def stop (column : FixedWidthColumn) : Nat := column.start + column.length

def ofSettings (column : Settings) : Outcome FixedWidthColumn := do
  let start ← column.requiredSize "start"
  let length ← column.requiredSize "length"
  if Settings.sizeMax < start + length then
    .error (.settings "length" "column end overflows")
  else .ok ⟨start, length, ← Conversion.ofSettings column false⟩

def slice (column : FixedWidthColumn) (line : List Char) (number : Nat) : Outcome (List Char) :=
  match TextCut.bytes? line column.start column.stop with
  | some cut => .ok cut
  | none =>
    .error (.outOfBounds column.conversion.field column.start column.stop number (Utf8.size line))

end FixedWidthColumn

structure FixedWidthFormat where
  hasHeader : Bool
  columns : List FixedWidthColumn
  deriving DecidableEq, Repr

namespace FixedWidthFormat

def ofSettings (settings : Settings) : Outcome FixedWidthFormat := do
  let hasHeader ← settings.optionalBool "hasHeaderRow" false
  let columns ← settings.columns FixedWidthColumn.ofSettings
  .ok ⟨hasHeader, columns⟩

def readColumns (line : List Char) (number : Nat) :
    List FixedWidthColumn → Record → Outcome Record
  | [], record => .ok record
  | column :: rest, record => do
    let cut ← column.slice line number
    let value ← column.conversion.convert (String.ofList (trimChars cut))
    readColumns line number rest (record.set column.conversion.field value)

def readLine (format : FixedWidthFormat) (line : List Char) (number : Nat) : Outcome Record :=
  readColumns line number format.columns .empty

def dropReturn (line : List Char) : List Char :=
  if line.getLast? = some '\r' then line.dropLast else line

/-- The records of the lines from a number onward, and then the fault that the lines end with. -/
def readLines (format : FixedWidthFormat) (fault : Option StreamFault) :
    Nat → List (Except StreamFault (List Char)) → Outcome (List Record)
  | _, [] =>
    match fault with
    | some fault => .error (.stream fault)
    | none => .ok []
  | number, line :: rest =>
    if number = 1 ∧ format.hasHeader then format.readLines fault (number + 1) rest
    else
      match line with
      | .error fault => .error (.stream fault)
      | .ok line =>
        let line := dropReturn line
        if line.all isBlank then format.readLines fault (number + 1) rest
        else do
          let record ← format.readLine line number
          .ok (record :: (← format.readLines fault (number + 1) rest))

def readFile (format : FixedWidthFormat) (delivery : Delivery) : Outcome (List Record) :=
  format.readLines delivery.fault 1 delivery.lines

end FixedWidthFormat

def FixedWidthFormat.settle (settings : Settings) : Outcome Stage := do
  let format ← ofSettings settings
  let policy ← settings.entryPolicy
  .ok (.handling policy (Run.handleTable fun _ delivery => format.readFile delivery))

end Sluice
