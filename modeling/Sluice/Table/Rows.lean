import Sluice.Flow.Entry

/-!
# Rows of delimited text

Rows are separated by line ends and cells by a delimiter.  A cell that begins with a quote runs to
the next single quote and may hold delimiters and line ends; a doubled quote in it stands for one,
and what follows the closing quote is added as it stands.  Blank lines are no rows.  Text ends with
its last row, whether or not a line end follows it.

A row's position counts the rows, lines and bytes before the place where the search for it began.

A reader is asked for many bytes at a time and is taken to deliver as many as it has, so that three
bytes of a mark that begins the text are seen together.
-/

set_option autoImplicit false

namespace Sluice

namespace Rows

def quoteByte : UInt8 := 34

def isLineEnd (b : UInt8) : Bool := b = 10 || b = 13

inductive Place where
  | rowStart
  | cellStart
  | bare
  | quoted
  /-- A quote was met in a quoted cell. -/
  | quoteSeen
  deriving DecidableEq, Repr

/-- Where bytes end: the line, counted from one, and the number of bytes. -/
structure Cursor where
  line : Nat
  byte : Nat
  deriving DecidableEq, Repr

def Cursor.past (cursor : Cursor) (b : UInt8) : Cursor :=
  ⟨if b = 10 then cursor.line + 1 else cursor.line, cursor.byte + 1⟩

/-- The row so far, the latest cell and byte first. -/
structure Partial where
  cells : List Bytes
  cell : Bytes
  deriving DecidableEq, Repr

namespace Partial

def empty : Partial := ⟨[], []⟩

def push (row : Partial) (b : UInt8) : Partial := ⟨row.cells, b :: row.cell⟩

def endCell (row : Partial) : Partial := ⟨row.cell.reverse :: row.cells, []⟩

def finish (row : Partial) : List Bytes := row.endCell.cells.reverse

end Partial

/-- What a search for a row comes to. -/
inductive Found where
  /-- A row that a line end closes, and what is behind it. -/
  | row (cells : List Bytes) (rest : Bytes) (cursor : Cursor)
  /-- The bytes ran out within a row. -/
  | unfinished (cells : List Bytes)
  /-- The bytes ran out before a row began. -/
  | nothing

/-- A byte between two cells or within a bare one. -/
def bareStep (delimiter b : UInt8) (row : Partial) : Option (Place × Partial) :=
  if b = delimiter then some (.cellStart, row.endCell)
  else if isLineEnd b then none
  else some (.bare, row.push b)

/-- The next place and the row so far; none when the byte closes the row. -/
def step (delimiter : UInt8) (place : Place) (row : Partial) (b : UInt8) :
    Option (Place × Partial) :=
  match place with
  | .rowStart =>
    if isLineEnd b then some (.rowStart, row)
    else if b = quoteByte then some (.quoted, row)
    else bareStep delimiter b row
  | .cellStart => if b = quoteByte then some (.quoted, row) else bareStep delimiter b row
  | .bare => bareStep delimiter b row
  | .quoted => if b = quoteByte then some (.quoteSeen, row) else some (.quoted, row.push b)
  | .quoteSeen => if b = quoteByte then some (.quoted, row.push b) else bareStep delimiter b row

def search (delimiter : UInt8) : Place → Partial → Cursor → Bytes → Found
  | place, row, _, [] => if place = .rowStart then .nothing else .unfinished row.finish
  | place, row, cursor, b :: rest =>
    match step delimiter place row b with
    | some (place, row) => search delimiter place row (cursor.past b) rest
    | none => .row row.finish rest (cursor.past b)

structure Row where
  position : RowPosition
  cells : List String
  deriving DecidableEq, Repr

/-- The cells as texts; the first that is none decides. -/
def decodeCells (position : RowPosition) : Nat → List Bytes → Except DelimitedFault (List String)
  | _, [] => .ok []
  | index, cell :: rest => do
    match Utf8.decode cell with
    | .error valid => .error (.notUtf8 position index valid)
    | .ok text => .ok (String.ofList text :: (← decodeCells position (index + 1) rest))

def decodeRow (position : RowPosition) (cells : List Bytes) : Except DelimitedFault Row := do
  .ok ⟨position, ← decodeCells position 0 cells⟩

def orderMark : Bytes := [0xEF, 0xBB, 0xBF]

def dropMark (index : Nat) (cursor : Cursor) (bytes : Bytes) : Cursor × Bytes :=
  if index = 0 ∧ bytes.take 3 = orderMark then (⟨cursor.line, cursor.byte + 3⟩, bytes.drop 3)
  else (cursor, bytes)

/-- At most the given number of rows.  A fault of the reader stands where its bytes end. -/
def collect (delimiter : UInt8) (fault : Option StreamFault) :
    Nat → Nat → Cursor → Bytes → List (Except DelimitedFault Row)
  | 0, _, _, _ => []
  | most + 1, index, cursor, bytes =>
    let position : RowPosition := ⟨index, cursor.line, cursor.byte⟩
    let (cursor, bytes) := dropMark index cursor bytes
    match search delimiter .rowStart .empty cursor bytes, fault with
    | .row cells rest cursor, fault =>
      decodeRow position cells :: collect delimiter fault most (index + 1) cursor rest
    | _, some fault => [.error (.stream fault)]
    | .unfinished cells, none => [decodeRow position cells]
    | .nothing, none => []

/-- The fault that the search for rows meets.  Where the mark is all that was delivered, nothing is
left to search once it is dropped, and the search ends without asking for more. -/
def faultMet (delivery : Delivery) : Option StreamFault :=
  if delivery.bytes = orderMark then none else delivery.fault

@[simp] theorem faultMet_none (bytes : Bytes) : faultMet ⟨bytes, none⟩ = none := ite_self none

/-- The rows that a reader delivers, in order. -/
def read (delimiter : UInt8) (delivery : Delivery) : List (Except DelimitedFault Row) :=
  collect delimiter (faultMet delivery) (delivery.bytes.length + 1) 0 ⟨1, 0⟩ delivery.bytes

end Rows

end Sluice
