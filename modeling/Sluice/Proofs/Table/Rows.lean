import Mathlib.Data.List.Forall2
import Sluice.Proofs.Text.Utf8
import Sluice.Table.Writing

/-!
# Written rows are found again

The reader walks over the bytes of a written row and stands behind its line feed with exactly the
cells that were written, whatever they hold.
-/

set_option autoImplicit false

namespace Sluice

namespace Rows

structure Separates (delimiter : UInt8) : Prop where
  not_quote : delimiter ≠ quoteByte
  not_end : isLineEnd delimiter = false

/-! ## Walking within a row -/

/-- Where the reader comes to within one row. -/
def walk (delimiter : UInt8) : Place × Partial → Bytes → Option (Place × Partial)
  | state, [] => some state
  | state, b :: rest => (step delimiter state.1 state.2 b).bind fun next => walk delimiter next rest

theorem walk_append {delimiter : UInt8} {before middle : Place × Partial} {first : Bytes}
    (walks : walk delimiter before first = some middle) (second : Bytes) :
    walk delimiter before (first ++ second) = walk delimiter middle second := by
  induction first generalizing before with
  | nil =>
      obtain rfl := Option.some.inj walks
      rfl
  | cons b rest ih =>
      obtain ⟨next, steps, walksRest⟩ := Option.bind_eq_some_iff.1 walks
      rw [List.cons_append, walk, steps]
      exact ih walksRest

theorem search_walk {delimiter : UInt8} {place place' : Place} {row row' : Partial} {bytes : Bytes}
    (walks : walk delimiter (place, row) bytes = some (place', row')) (cursor : Cursor)
    (rest : Bytes) :
    search delimiter place row cursor (bytes ++ rest) =
      search delimiter place' row' (bytes.foldl Cursor.past cursor) rest := by
  induction bytes generalizing place row cursor with
  | nil =>
      obtain ⟨rfl, rfl⟩ := Prod.mk.inj (Option.some.inj walks)
      rfl
  | cons b others ih =>
      obtain ⟨⟨next, nextRow⟩, steps, walksRest⟩ := Option.bind_eq_some_iff.1 walks
      rw [List.cons_append, search, steps]
      exact ih walksRest (cursor.past b)

def Partial.hold (row : Partial) (cell : Bytes) : Partial := ⟨row.cells, cell.reverse ++ row.cell⟩

theorem Partial.hold_push (row : Partial) (b : UInt8) (cell : Bytes) :
    (row.push b).hold cell = row.hold (b :: cell) := by
  simp [hold, push]

/-! ## One cell -/

open DelimitedLayout

def cellBytes (delimiter : UInt8) (cell : Bytes) : Bytes := (cellPieces delimiter cell).flatten

theorem flatten_single (cell : Bytes) : (cell.map fun b => [b]).flatten = cell := by
  induction cell with
  | nil => rfl
  | cons b rest ih => rw [List.map_cons, List.flatten_cons, ih, List.singleton_append]

theorem cellBytes_bare {delimiter : UInt8} {cell : Bytes}
    (bare : needsQuotes delimiter cell = false) : cellBytes delimiter cell = cell := by
  rw [cellBytes, cellPieces, if_neg (by simp [bare]), flatten_single]

theorem cellBytes_quoted {delimiter : UInt8} {cell : Bytes}
    (quoted : needsQuotes delimiter cell = true) :
    cellBytes delimiter cell = quoteByte :: (cell.flatMap quotedByte ++ [quoteByte]) := by
  rw [cellBytes, cellPieces, if_pos quoted]
  simp [List.flatMap]

theorem walk_bare {delimiter : UInt8} (row : Partial) {cell : Bytes}
    (bare : needsQuotes delimiter cell = false) :
    walk delimiter (.bare, row) cell = some (.bare, row.hold cell) := by
  induction cell generalizing row with
  | nil => rfl
  | cons b rest ih =>
      simp only [needsQuotes, List.any_cons, Bool.or_eq_false_iff, decide_eq_false_iff_not] at bare
      obtain ⟨⟨⟨notDelimiter, _⟩, notEnd⟩, bareRest⟩ := bare
      have steps : step delimiter .bare row b = some (.bare, row.push b) := by
        rw [step, bareStep, if_neg notDelimiter, if_neg (by simp [notEnd])]
      rw [walk, steps, Option.bind_some, ih (row.push b) bareRest, Partial.hold_push]

theorem walk_quoted (delimiter : UInt8) (row : Partial) (cell : Bytes) :
    walk delimiter (.quoted, row) (cell.flatMap quotedByte) = some (.quoted, row.hold cell) := by
  induction cell generalizing row with
  | nil => rfl
  | cons b rest ih =>
      have byte : walk delimiter (.quoted, row) (quotedByte b) = some (.quoted, row.push b) := by
        by_cases quote : b = quoteByte
        · rw [quotedByte, if_pos quote]
          simp [walk, step, quote]
        · rw [quotedByte, if_neg quote]
          simp [walk, step, quote]
      rw [List.flatMap_cons, walk_append byte, ih, Partial.hold_push]

def Begins (place : Place) : Prop := place = .rowStart ∨ place = .cellStart

theorem step_first {delimiter : UInt8} {place : Place} (begins : Begins place) (row : Partial)
    {b : UInt8} (notQuote : b ≠ quoteByte) (notEnd : isLineEnd b = false) :
    step delimiter place row b = bareStep delimiter b row := by
  rcases begins with rfl | rfl
  · rw [step, if_neg (by simp [notEnd]), if_neg notQuote]
  · rw [step, if_neg notQuote]

theorem step_quote {delimiter : UInt8} {place : Place} (begins : Begins place) (row : Partial) :
    step delimiter place row quoteByte = some (.quoted, row) := by
  rcases begins with rfl | rfl <;> rfl

/-- The reader stands behind a cell: where it began if the cell is empty, and else where the next
byte separates cells or ends the row. -/
def Ends (place : Place) (cell : Bytes) (place' : Place) : Prop :=
  place' = .bare ∨ place' = .quoteSeen ∨ (cell = [] ∧ place' = place)

theorem walk_cell (delimiter : UInt8) {place : Place} (begins : Begins place) (row : Partial)
    (cell : Bytes) :
    ∃ place', walk delimiter (place, row) (cellBytes delimiter cell) =
      some (place', row.hold cell) ∧ Ends place cell place' := by
  cases quoted : needsQuotes delimiter cell with
  | true =>
      refine ⟨.quoteSeen, ?_, .inr (.inl rfl)⟩
      rw [cellBytes_quoted quoted, walk, step_quote begins, Option.bind_some,
        walk_append (walk_quoted delimiter row cell)]
      simp [walk, step]
  | false =>
      rw [cellBytes_bare quoted]
      cases cell with
      | nil => exact ⟨place, rfl, .inr (.inr ⟨rfl, rfl⟩)⟩
      | cons b rest =>
          refine ⟨.bare, ?_, .inl rfl⟩
          have whole := quoted
          simp only [needsQuotes, List.any_cons, Bool.or_eq_false_iff,
            decide_eq_false_iff_not] at whole
          obtain ⟨⟨⟨notDelimiter, notQuote⟩, notEnd⟩, bareRest⟩ := whole
          have steps : step delimiter place row b = some (.bare, row.push b) := by
            rw [step_first begins row notQuote notEnd, bareStep, if_neg notDelimiter,
              if_neg (by simp [notEnd])]
          rw [walk, steps, Option.bind_some, walk_bare (row.push b) bareRest, Partial.hold_push]

/-! ## One row -/

theorem step_separator {delimiter : UInt8} (separates : Separates delimiter) {place place' : Place}
    (begins : Begins place) {cell : Bytes} (ends : Ends place cell place') (row : Partial) :
    step delimiter place' row delimiter = some (.cellStart, row.endCell) := by
  have separated : bareStep delimiter delimiter row = some (.cellStart, row.endCell) := by
    rw [bareStep, if_pos rfl]
  rcases ends with rfl | rfl | ⟨_, rfl⟩
  · exact separated
  · rw [step, if_neg separates.not_quote, separated]
  · rw [step_first begins row separates.not_quote separates.not_end, separated]

def openRowBytes (delimiter : UInt8) (first : Bytes) (rest : List Bytes) : Bytes :=
  cellBytes delimiter first ++ rest.flatMap fun cell => delimiter :: cellBytes delimiter cell

theorem walk_openRow {delimiter : UInt8} (separates : Separates delimiter) {place : Place}
    (begins : Begins place) (before : List Bytes) (first : Bytes) (rest : List Bytes) :
    ∃ place' row, walk delimiter (place, ⟨before, []⟩) (openRowBytes delimiter first rest) =
        some (place', row) ∧ row.finish = before.reverse ++ first :: rest ∧
      (place' = .bare ∨ place' = .quoteSeen ∨ place' = .cellStart ∨
        (place' = place ∧ first = [] ∧ rest = [])) := by
  induction rest generalizing place before first with
  | nil =>
      obtain ⟨place', walks, ends⟩ := walk_cell delimiter begins ⟨before, []⟩ first
      refine ⟨place', Partial.hold ⟨before, []⟩ first, ?_, ?_, ?_⟩
      · rw [openRowBytes, List.flatMap_nil, List.append_nil]
        exact walks
      · simp [Partial.finish, Partial.endCell, Partial.hold]
      · rcases ends with bare | seen | ⟨empty, same⟩
        · exact .inl bare
        · exact .inr (.inl seen)
        · exact .inr (.inr (.inr ⟨same, empty, rfl⟩))
  | cons second others ih =>
      obtain ⟨middle, walks, ends⟩ := walk_cell delimiter begins ⟨before, []⟩ first
      obtain ⟨place', row, walksRest, finish, final⟩ :=
        ih (.inr rfl) (first :: before) second
      refine ⟨place', row, ?_, ?_, ?_⟩
      · rw [openRowBytes, List.flatMap_cons, walk_append walks, List.cons_append, walk,
          step_separator separates begins ends, Option.bind_some]
        have ended : (Partial.hold ⟨before, []⟩ first).endCell = ⟨first :: before, []⟩ := by
          simp [Partial.hold, Partial.endCell]
        rw [ended]
        exact walksRest
      · rw [finish]
        simp
      · rcases final with bare | seen | start | ⟨start, _⟩
        · exact .inl bare
        · exact .inr (.inl seen)
        · exact .inr (.inr (.inl start))
        · exact .inr (.inr (.inl start))

theorem step_end {delimiter : UInt8} (separates : Separates delimiter) {place : Place}
    (behind : place = .bare ∨ place = .quoteSeen ∨ place = .cellStart) (row : Partial) :
    step delimiter place row 10 = none := by
  have notDelimiter : (10 : UInt8) ≠ delimiter := by
    rintro rfl
    cases separates.not_end
  have closed : bareStep delimiter 10 row = none := by
    rw [bareStep, if_neg notDelimiter, if_pos (by decide)]
  have notQuote : (10 : UInt8) ≠ quoteByte := by decide
  rcases behind with rfl | rfl | rfl
  · exact closed
  · rw [step, if_neg notQuote, closed]
  · rw [step, if_neg notQuote, closed]

theorem cellPieces_isEmpty (delimiter : UInt8) (cell : Bytes) :
    (cellPieces delimiter cell).isEmpty = cell.isEmpty := by
  cases cell with
  | nil => rfl
  | cons b rest =>
      rw [cellPieces]
      split <;> rfl

theorem intersperse_flatten (separator : List Bytes) (first : List Bytes)
    (rest : List (List Bytes)) :
    ((first :: rest).intersperse separator).flatten =
      first ++ rest.flatMap fun pieces => separator ++ pieces := by
  induction rest generalizing first with
  | nil => simp
  | cons second others ih =>
      rw [List.intersperse_cons_cons, List.flatten_cons, List.flatten_cons, ih, List.flatMap_cons,
        List.append_assoc]

theorem flatten_separated (delimiter : UInt8) (cells : List Bytes) :
    ((cells.map (cellPieces delimiter)).flatMap fun pieces => [[delimiter]] ++ pieces).flatten =
      cells.flatMap fun cell => delimiter :: cellBytes delimiter cell := by
  induction cells with
  | nil => rfl
  | cons cell others ih =>
      rw [List.map_cons, List.flatMap_cons, List.flatten_append, ih, List.flatMap_cons]
      rfl

theorem rowBytes_cons (delimiter : UInt8) (first : String) (rest : List String) :
    rowBytes delimiter (first :: rest) =
      openRowBytes delimiter (Utf8.encode first.toList)
          (rest.map fun cell => Utf8.encode cell.toList) ++
        if Utf8.encode first.toList = [] ∧ rest = [] then [quoteByte, quoteByte, 10]
        else [10] := by
  have cells : (first :: rest).map (fun cell => cellPieces delimiter (Utf8.encode cell.toList)) =
      cellPieces delimiter (Utf8.encode first.toList) ::
        (rest.map fun cell => Utf8.encode cell.toList).map (cellPieces delimiter) := by
    rw [List.map_cons, List.map_map]
    rfl
  rw [rowBytes, rowPieces, cells, intersperse_flatten, List.flatten_append,
    List.flatten_append, flatten_separated, openRowBytes, cellBytes]
  congr 1
  have lone : (cellPieces delimiter (Utf8.encode first.toList) ++
      ((rest.map fun cell => Utf8.encode cell.toList).map (cellPieces delimiter)).flatMap
        fun pieces => [[delimiter]] ++ pieces).isEmpty =
      decide (Utf8.encode first.toList = [] ∧ rest = []) := by
    cases rest with
    | nil =>
        rw [List.map_nil, List.map_nil, List.flatMap_nil, List.append_nil, cellPieces_isEmpty]
        cases Utf8.encode first.toList <;> simp
    | cons second others => simp
  rw [endPieces, lone]
  by_cases empty : Utf8.encode first.toList = [] ∧ rest = []
  · simp [empty]
  · simp only [decide_eq_false empty, if_neg empty]
    rfl

/-- The reader finds a written row, whatever follows it. -/
theorem search_rowBytes {delimiter : UInt8} (separates : Separates delimiter) (cursor : Cursor)
    (first : String) (rest : List String) (behind : Bytes) :
    ∃ past, search delimiter .rowStart .empty cursor
        (rowBytes delimiter (first :: rest) ++ behind) =
      .row ((first :: rest).map fun cell => Utf8.encode cell.toList) behind past := by
  obtain ⟨place, row, walks, finish, final⟩ := walk_openRow separates (.inl rfl) []
    (Utf8.encode first.toList) (rest.map fun cell => Utf8.encode cell.toList)
  have cells : row.finish = (first :: rest).map fun cell => Utf8.encode cell.toList := by
    rw [finish]
    rfl
  rw [rowBytes_cons, List.append_assoc]
  by_cases empty : Utf8.encode first.toList = [] ∧ rest = []
  · -- The pair of quotes is an empty cell, and with it the row is none of the blank lines.
    obtain ⟨nothing, rfl⟩ := empty
    refine ⟨((cursor.past quoteByte).past quoteByte).past 10, ?_⟩
    rw [if_pos ⟨nothing, rfl⟩, List.map_nil, List.map_singleton, nothing]
    have quotes : walk delimiter (.rowStart, .empty) [quoteByte, quoteByte] =
        some (.quoteSeen, .empty) := rfl
    exact (search_walk quotes cursor (10 :: behind)).trans (by
      rw [search, step_end separates (.inr (.inl rfl))]
      rfl)
  · rw [if_neg empty]
    have behindCell : place = .bare ∨ place = .quoteSeen ∨ place = .cellStart := by
      rcases final with bare | seen | start | ⟨_, nothing, alone⟩
      · exact .inl bare
      · exact .inr (.inl seen)
      · exact .inr (.inr start)
      · exact absurd ⟨nothing, List.map_eq_nil_iff.1 alone⟩ empty
    refine ⟨((openRowBytes delimiter (Utf8.encode first.toList)
      (rest.map fun cell => Utf8.encode cell.toList)).foldl Cursor.past cursor).past 10, ?_⟩
    rw [Partial.empty, search_walk walks, List.singleton_append, search,
      step_end separates behindCell, cells]

/-! ## The mark of byte order -/

theorem decodeChar?_mark (rest : Bytes) :
    Utf8.decodeChar? (orderMark ++ rest) = some ('\uFEFF', rest) :=
  Utf8.decodeChar?_encodeChar '\uFEFF' rest

theorem head_of_mark {bytes : Bytes} (marked : bytes.take 3 = orderMark) :
    ∃ rest, bytes = orderMark ++ rest :=
  ⟨bytes.drop 3, by rw [← marked, List.take_append_drop]⟩

theorem cons_unmarked {b : UInt8} (small : b.toNat < 0x80) (bytes : Bytes) :
    (b :: bytes).take 3 ≠ orderMark := by
  intro marked
  obtain rfl : b = 0xEF := (List.cons.inj marked).1
  cases (show ¬ (0xEF : UInt8).toNat < 0x80 by decide) small

theorem rowBytes_quoted_unmarked {delimiter : UInt8} {first : String}
    (quoted : needsQuotes delimiter (Utf8.encode first.toList) = true) (rest : List String)
    (behind : Bytes) : (rowBytes delimiter (first :: rest) ++ behind).take 3 ≠ orderMark := by
  rw [rowBytes_cons, openRowBytes, cellBytes_quoted quoted]
  have small : quoteByte.toNat < 0x80 := by decide
  exact cons_unmarked small _

/-- A written row begins with a mark only if its first cell does. -/
theorem rowBytes_unmarked {delimiter : UInt8} (ascii : delimiter.toNat < 0x80) (first : String)
    (unmarked : first.toList.head? ≠ some '\uFEFF') (rest : List String) (behind : Bytes) :
    (rowBytes delimiter (first :: rest) ++ behind).take 3 ≠ orderMark := by
  cases quoted : needsQuotes delimiter (Utf8.encode first.toList) with
  | true => exact rowBytes_quoted_unmarked quoted rest behind
  | false =>
      rw [rowBytes_cons, openRowBytes, cellBytes_bare quoted]
      cases chars : first.toList with
      | nil =>
          cases rest with
          | nil =>
              have small : quoteByte.toNat < 0x80 := by decide
              exact cons_unmarked small _
          | cons second others => exact cons_unmarked ascii _
      | cons c more =>
          intro marked
          obtain ⟨left, whole⟩ := head_of_mark marked
          have decoded := congrArg Utf8.decodeChar? whole
          rw [Utf8.encode_cons, List.append_assoc, List.append_assoc, List.append_assoc,
            Utf8.decodeChar?_encodeChar, decodeChar?_mark] at decoded
          obtain ⟨rfl, _⟩ := Prod.mk.inj (Option.some.inj decoded)
          rw [chars] at unmarked
          exact unmarked rfl

/-! ## All rows -/

theorem decodeCells_encode (position : RowPosition) (index : Nat) (cells : List String) :
    decodeCells position index (cells.map fun cell => Utf8.encode cell.toList) = .ok cells := by
  induction cells generalizing index with
  | nil => rfl
  | cons cell others ih =>
      rw [List.map_cons, decodeCells, Utf8.decode_encode]
      dsimp only
      rw [ih]
      simp [bind, Except.bind]

def HasCells (found : Except DelimitedFault Row) (cells : List String) : Prop :=
  ∃ position, found = .ok ⟨position, cells⟩

def rowsBytes (delimiter : UInt8) (rows : List (List String)) : Bytes :=
  rows.flatMap (rowBytes delimiter)

/-- If a search finds what it would find in written rows, then the rows are collected. -/
theorem collect_found {delimiter : UInt8} (separates : Separates delimiter)
    {rows : List (List String)} (wide : ∀ row ∈ rows, row ≠ []) {most : Nat}
    (enough : rows.length < most) (index : Nat) (cursor cursor' : Cursor) {bytes : Bytes}
    (finds : search delimiter .rowStart .empty (dropMark index cursor bytes).1
        (dropMark index cursor bytes).2 =
      search delimiter .rowStart .empty cursor' (rowsBytes delimiter rows)) :
    List.Forall₂ HasCells (collect delimiter none most index cursor bytes) rows := by
  induction rows generalizing most index cursor cursor' bytes with
  | nil =>
      cases most with
      | zero => cases enough
      | succ most =>
          have ends : search delimiter .rowStart .empty cursor' [] = .nothing := rfl
          rw [collect]
          dsimp only
          rw [finds, rowsBytes, List.flatMap_nil, ends]
          exact .nil
  | cons row others ih =>
      cases most with
      | zero => cases enough
      | succ most =>
          obtain ⟨first, rest, rfl⟩ := List.exists_cons_of_ne_nil (wide row (List.mem_cons_self ..))
          obtain ⟨past, found⟩ :=
            search_rowBytes separates cursor' first rest (rowsBytes delimiter others)
          have kept : dropMark (index + 1) past (rowsBytes delimiter others) =
              (past, rowsBytes delimiter others) := by
            rw [dropMark, if_neg fun marked => Nat.succ_ne_zero index marked.1]
          have following := ih (fun row member => wide row (List.mem_cons_of_mem _ member))
            (Nat.lt_of_succ_lt_succ enough) (index + 1) past past (by rw [kept])
          rw [collect]
          dsimp only
          rw [finds, rowsBytes, List.flatMap_cons, ← rowsBytes, found]
          refine .cons ⟨⟨index, cursor.line, cursor.byte⟩, ?_⟩ following
          rw [decodeRow, decodeCells_encode]
          rfl

theorem length_le_rowsBytes (delimiter : UInt8) {rows : List (List String)}
    (wide : ∀ row ∈ rows, row ≠ []) : rows.length ≤ (rowsBytes delimiter rows).length := by
  refine length_le_flatMap rows fun row member => ?_
  obtain ⟨first, rest, rfl⟩ := List.exists_cons_of_ne_nil (wide row member)
  rw [rowBytes_cons]
  split <;> simp

theorem read_whole (delimiter : UInt8) (bytes : Bytes) :
    read delimiter ⟨bytes, none⟩ = collect delimiter none (bytes.length + 1) 0 ⟨1, 0⟩ bytes := by
  rw [read, faultMet_none]

/-- Reading the bytes of some rows finds these rows. -/
theorem read_rowsBytes {delimiter : UInt8} (separates : Separates delimiter)
    {rows : List (List String)} (wide : ∀ row ∈ rows, row ≠ [])
    (unmarked : (rowsBytes delimiter rows).take 3 ≠ orderMark) :
    List.Forall₂ HasCells (read delimiter ⟨rowsBytes delimiter rows, none⟩) rows := by
  have enough := Nat.lt_succ_of_le (length_le_rowsBytes delimiter wide)
  rw [read_whole]
  refine collect_found separates wide enough 0 ⟨1, 0⟩ ⟨1, 0⟩ ?_
  rw [dropMark, if_neg fun marked => unmarked marked.2]

end Rows

end Sluice
