import Sluice.Flow.Stage
import Sluice.Table.Rows

/-!
# Writing delimited text

Records become the rows of one file.  A row has a cell for each chosen field, empty where the field
is missing or null.  A cell is quoted when it holds the delimiter, a quote or a line end, and so is
a lone empty cell, which would otherwise look like a blank line.
-/

set_option autoImplicit false

namespace Sluice

structure DelimitedLayout where
  hasHeader : Bool
  fields : List String
  delimiter : UInt8
  filename : String
  deriving DecidableEq, Repr

namespace DelimitedLayout

def fieldsKey : String := "headerValue"

/-- The fields of a list, in order; an item that is no text is refused. -/
def readFields : Nat → List Json → Outcome (List String)
  | _, [] => .ok []
  | index, .text name :: rest => do .ok (name :: (← readFields (index + 1) rest))
  | index, other :: _ =>
    .error (Settings.wrongType (Settings.itemKey fieldsKey index) "a string" other)

/-- A header is written for the truth value and for its text. -/
def asksHeader : Option Json → Bool
  | some (.text text) => decide (text = "true")
  | some (.bool truth) => truth
  | _ => false

def ofSettings (settings : Settings) : Outcome DelimitedLayout := do
  let fields ← readFields 0 (← settings.requiredList fieldsKey)
  let _ ← settings.required "delimiter"
  let delimiter ← settings.delimiter "delimiter" 44
  let filename ← settings.requiredText "filename"
  .ok ⟨asksHeader (settings.get? "header"), fields, delimiter, filename⟩

def cells (layout : DelimitedLayout) (record : Record) : List String :=
  layout.fields.map fun name => (record.getOrNull name).display

/-! ## The bytes of a row

A row is a list of pieces that are never torn apart: single bytes and doubled quotes. -/

def needsQuotes (delimiter : UInt8) (cell : Bytes) : Bool :=
  cell.any fun b => b = delimiter || b = Rows.quoteByte || Rows.isLineEnd b

def quotedByte (b : UInt8) : Bytes := if b = Rows.quoteByte then [b, b] else [b]

def cellPieces (delimiter : UInt8) (cell : Bytes) : List Bytes :=
  if needsQuotes delimiter cell then
    [Rows.quoteByte] :: cell.map quotedByte ++ [[Rows.quoteByte]]
  else cell.map fun b => [b]

/-- The line feed that ends a row; a row without any byte gets an empty pair of quotes first. -/
def endPieces (row : List Bytes) : List Bytes :=
  if row.isEmpty then [[Rows.quoteByte, Rows.quoteByte], [10]] else [[10]]

def rowPieces (delimiter : UInt8) (cells : List String) : List Bytes :=
  let row := ((cells.map fun cell => cellPieces delimiter (Utf8.encode cell.toList)).intersperse
    [[delimiter]]).flatten
  row ++ endPieces row

def rowBytes (delimiter : UInt8) (cells : List String) : Bytes :=
  (rowPieces delimiter cells).flatten

end DelimitedLayout

def Run.writeRow (delimiter : UInt8) (cells : List String) : Run Unit := do
  let written ← writePieces (DelimitedLayout.rowPieces delimiter cells)
  ofStream (fun fault => .delimited (.stream fault)) written

namespace DelimitedLayout

/-- Writes the header, if there is one. -/
def writeHeader (layout : DelimitedLayout) : Run Unit :=
  if layout.hasHeader then Run.writeRow layout.delimiter layout.fields else pure ()

def handle (layout : DelimitedLayout) (entry : Entry) : Run Unit := do
  let record ← Run.ofOutcome entry.asRecord
  Run.writeRow layout.delimiter (layout.cells record)

/-- The rows of all records go to one file.  What waits is written and the file is closed on every
path; a failure of the writing comes before one of the close. -/
def stage (layout : DelimitedLayout) (policy : Settings.EntryPolicy) : Stage where
  policy := policy
  acquire := Run.newFile defaultPort layout.filename
  lead := layout.writeHeader
  handle := layout.handle
  trail := do
    let flushed ← Run.flushFile
    Run.ofStream .stream flushed
  release written := do
    let _ ← Run.flushFile
    let closed ← Run.attempt Run.closeFile
    Run.ofOutcome (written.bind fun _ => closed)

def settle (settings : Settings) : Outcome Stage := do
  let layout ← ofSettings settings
  let policy ← settings.entryPolicy
  .ok (layout.stage policy)

end DelimitedLayout

end Sluice
