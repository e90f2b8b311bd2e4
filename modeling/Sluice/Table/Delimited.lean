import Sluice.Flow.Stage
import Sluice.Table.Column
import Sluice.Table.Rows

/-!
# Reading delimited text

Each row of a file becomes a record.  A cell is given to the column named by its header, else to the
column of its position; a cell without a column is skipped, kept as text under its header, or
refused.  A file yields all of its records or none.
-/

set_option autoImplicit false

namespace Sluice

structure DelimitedColumn where
  name : Option String
  index : Option Nat
  conversion : Conversion
  deriving DecidableEq, Repr

structure DelimitedFormat where
  hasHeader : Bool
  namesByHeader : Bool
  ignoresUnmapped : Bool
  delimiter : UInt8
  columns : List DelimitedColumn
  deriving DecidableEq, Repr

namespace DelimitedColumn

def ofSettings (namesByHeader : Bool) (column : Settings) : Outcome DelimitedColumn := do
  let name ← column.optionalText "columnName"
  let index ← column.optionalSize "index"
  let conversion ← Conversion.ofSettings column namesByHeader
  if conversion.field.isEmpty ∧ name.isNone then
    .error (.settings Conversion.fieldKey "required unless the column is named by its header")
  else .ok ⟨name, index, conversion⟩

end DelimitedColumn

namespace DelimitedFormat

def ofSettings (settings : Settings) : Outcome DelimitedFormat := do
  let hasHeader ← settings.optionalBool "hasHeaderRow" false
  let namesByHeader ← settings.optionalBool "useHeaderColumnNamesAsFieldNames" false
  let ignoresUnmapped ← settings.optionalBool "ignoreUnmappedColumns" false
  let delimiter ← settings.delimiter "delimiter" 44
  let columns ← settings.columns (DelimitedColumn.ofSettings namesByHeader)
  .ok ⟨hasHeader, namesByHeader, ignoresUnmapped, delimiter, columns⟩

def byHeader? (format : DelimitedFormat) (name : String) : Option DelimitedColumn :=
  format.columns.find? fun column => column.name = some name

def byIndex? (format : DelimitedFormat) (index : Nat) : Option DelimitedColumn :=
  format.columns.find? fun column => column.index = some index

/-- The column of a cell: by its header first, then by its position. -/
def column? (format : DelimitedFormat) (position : Nat) (header : Option String) :
    Option DelimitedColumn :=
  (header.bind format.byHeader?).or (format.byIndex? position)

/-- The conversion of a column; an empty field is named by the header or else by the column. -/
def conversionOf (column : DelimitedColumn) (header : Option String) : Conversion :=
  if column.conversion.field.isEmpty then
    { column.conversion with field := (header.or column.name).getD "" }
  else column.conversion

def unmapped (position : Nat) : Failure :=
  .unsupported ("column " ++ toString position ++
    " has no mapping and the file has no header row; " ++
    "map every column or set ignoreUnmappedColumns")

/-- How the cell at a position is converted; none when it is skipped. -/
def resolve (format : DelimitedFormat) (position : Nat) (header : Option String) :
    Outcome (Option Conversion) :=
  match format.column? position header with
  | some column => .ok (some (conversionOf column header))
  | none =>
    if format.ignoresUnmapped then .ok none
    else
      match header with
      | some name => .ok (some ⟨.text, "", name⟩)
      | none => .error (unmapped position)

def readCells (format : DelimitedFormat) (header : Option (List String)) :
    Nat → List String → Record → Outcome Record
  | _, [], record => .ok record
  | position, cell :: rest, record => do
    match ← format.resolve position (header.bind fun names => names[position]?) with
    | none => readCells format header (position + 1) rest record
    | some conversion =>
      let value ← conversion.convert cell
      readCells format header (position + 1) rest (record.set conversion.field value)

def readRow (format : DelimitedFormat) (header : Option (List String)) (row : List String) :
    Outcome Record :=
  format.readCells header 0 row .empty

def wrongWidth (file : String) (row : Rows.Row) (width : Nat) : Failure :=
  .unsupported (file ++ " line " ++ toString row.position.line ++ ": row has " ++
    toString row.cells.length ++ " fields, expected " ++ toString width)

/-- The records of rows that must all be as wide as the first; `width` is that of those before. -/
def readRows (format : DelimitedFormat) (file : String) (header : Option (List String)) :
    Option Nat → List (Except DelimitedFault Rows.Row) → Outcome (List Record)
  | _, [] => .ok []
  | _, .error fault :: _ => .error (.delimited fault)
  | width, .ok row :: rest =>
    let expected := width.getD row.cells.length
    if row.cells.length ≠ expected then .error (wrongWidth file row expected)
    else do
      let record ← format.readRow header row.cells
      .ok (record :: (← format.readRows file header (some expected) rest))

def readFile (format : DelimitedFormat) (file : String) (delivery : Delivery) :
    Outcome (List Record) :=
  let rows := Rows.read format.delimiter delivery
  if format.hasHeader then
    match rows with
    | [] => .ok []
    | .error fault :: _ => .error (.delimited fault)
    | .ok header :: rest =>
      format.readRows file (some header.cells) (some header.cells.length) rest
  else format.readRows file none none rows

end DelimitedFormat

def Run.writeRecords (port : String) : List Record → Run Unit
  | [] => pure ()
  | record :: rest => do
    Run.writeRecord port record
    Run.writeRecords port rest

/-- Reads a file as a table and writes its records once all of them are read. -/
def Run.handleTable (readFile : String → Delivery → Outcome (List Record)) (entry : Entry) :
    Run Unit := do
  let file ← Run.ofOutcome entry.asFile
  let records ← Run.ofOutcome (readFile file.name (← Run.deliver file))
  Run.writeRecords defaultPort records

def DelimitedFormat.settle (settings : Settings) : Outcome Stage := do
  let format ← ofSettings settings
  let policy ← settings.entryPolicy
  .ok (.handling policy (Run.handleTable format.readFile))

end Sluice
