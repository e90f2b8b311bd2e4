import Sluice.Proofs.Table.Rows

/-!
# The mark of byte order

A mark at the beginning of a file is no text to the reader.  The writer has no quotes for it, so
that a mark with which the first cell begins is lost, unless the cell is quoted for what else it
holds.  A row of which nothing is left is a blank line.
-/

set_option autoImplicit false

namespace Sluice

namespace Rows

open DelimitedLayout

structure BareMark (delimiter : UInt8) (cell : String) (text : List Char) : Prop where
  chars : cell.toList = '\uFEFF' :: text
  bare : needsQuotes delimiter (Utf8.encode cell.toList) = false

inductive ReadsBack (delimiter : UInt8) : List (List String) → List (List String) → Prop where
  | whole {rows : List (List String)}
      (unmarked : ∀ cell rest others text, rows = (cell :: rest) :: others →
        ¬ BareMark delimiter cell text) : ReadsBack delimiter rows rows
  | cut {cell : String} {text : List Char} (mark : BareMark delimiter cell text)
      (rest : List String) (others : List (List String)) (left : text ≠ [] ∨ rest ≠ []) :
      ReadsBack delimiter ((cell :: rest) :: others) ((String.ofList text :: rest) :: others)
  | gone {cell : String} (mark : BareMark delimiter cell []) (others : List (List String)) :
      ReadsBack delimiter ([cell] :: others) others

variable {delimiter : UInt8} {cell : String} {text : List Char}

theorem encode_mark (text : List Char) :
    Utf8.encode ('\uFEFF' :: text) = orderMark ++ Utf8.encode text := rfl

theorem encode_eq_nil : Utf8.encode text = [] ↔ text = [] := by
  cases text with
  | nil => simp [Utf8.encode]
  | cons c rest => simp [Utf8.encode_cons, Utf8.encodeChar_ne_nil]

theorem BareMark.cellBytes (mark : BareMark delimiter cell text) :
    cellBytes delimiter (Utf8.encode cell.toList) =
      orderMark ++ cellBytes delimiter (Utf8.encode text) := by
  have bare := mark.bare
  rw [mark.chars, encode_mark, needsQuotes, List.any_append, Bool.or_eq_false_iff] at bare
  rw [cellBytes_bare mark.bare, cellBytes_bare bare.2, mark.chars, encode_mark]

/-- Behind the mark stands the row that the text begins. -/
theorem BareMark.rowBytes_cut (mark : BareMark delimiter cell text) {rest : List String}
    (left : text ≠ [] ∨ rest ≠ []) :
    rowBytes delimiter (cell :: rest) =
      orderMark ++ rowBytes delimiter (String.ofList text :: rest) := by
  have filled : ¬ (Utf8.encode cell.toList = [] ∧ rest = []) := by
    simp [mark.chars, encode_eq_nil]
  have filledText : ¬ (Utf8.encode (String.ofList text).toList = [] ∧ rest = []) := by
    rw [String.toList_ofList, encode_eq_nil]
    rintro ⟨noText, noRest⟩
    rcases left with someText | someRest
    · exact someText noText
    · exact someRest noRest
  rw [rowBytes_cons, rowBytes_cons, if_neg filled, if_neg filledText, openRowBytes, openRowBytes,
    mark.cellBytes, String.toList_ofList, List.append_assoc, List.append_assoc, List.append_assoc]

theorem BareMark.rowBytes_gone (mark : BareMark delimiter cell []) :
    rowBytes delimiter [cell] = orderMark ++ [10] := by
  have filled : ¬ (Utf8.encode cell.toList = [] ∧ ([] : List String) = []) := by
    simp [mark.chars, encode_eq_nil]
  rw [rowBytes_cons, if_neg filled, openRowBytes, mark.cellBytes]
  rfl

theorem dropMark_marked (cursor : Cursor) (bytes : Bytes) :
    dropMark 0 cursor (orderMark ++ bytes) = (⟨cursor.line, cursor.byte + 3⟩, bytes) := by
  have marked : (orderMark ++ bytes).take 3 = orderMark := rfl
  rw [dropMark, if_pos ⟨rfl, marked⟩]
  rfl

theorem rowsBytes_cons (row : List String) (others : List (List String)) :
    rowsBytes delimiter (row :: others) =
      rowBytes delimiter row ++ rowsBytes delimiter others := rfl

/-- Whatever was written, its rows are found, but for a bare mark at the beginning. -/
theorem read_written (separates : Separates delimiter) (ascii : delimiter.toNat < 0x80)
    {rows : List (List String)} (wide : ∀ row ∈ rows, row ≠ []) :
    ∃ found, ReadsBack delimiter rows found ∧
      List.Forall₂ HasCells (read delimiter ⟨rowsBytes delimiter rows, none⟩) found := by
  have enough := Nat.lt_succ_of_le (length_le_rowsBytes delimiter wide)
  by_cases marked : ∃ cell rest others text, rows = (cell :: rest) :: others ∧
      BareMark delimiter cell text
  · obtain ⟨cell, rest, others, text, rfl, mark⟩ := marked
    by_cases left : text ≠ [] ∨ rest ≠ []
    · refine ⟨_, .cut mark rest others left, ?_⟩
      have wideCut : ∀ row ∈ (String.ofList text :: rest) :: others, row ≠ [] := by
        intro row member
        rcases List.mem_cons.1 member with rfl | member
        · simp
        · exact wide row (List.mem_cons_of_mem _ member)
      rw [read_whole]
      refine collect_found separates wideCut enough 0 ⟨1, 0⟩ ⟨1, 3⟩ ?_
      rw [rowsBytes_cons, mark.rowBytes_cut left, List.append_assoc, dropMark_marked]
      rfl
    · obtain ⟨rfl, rfl⟩ : text = [] ∧ rest = [] := by simpa using left
      refine ⟨_, .gone mark others, ?_⟩
      have wideOthers : ∀ row ∈ others, row ≠ [] :=
        fun row member => wide row (List.mem_cons_of_mem _ member)
      rw [read_whole]
      refine collect_found separates wideOthers (Nat.lt_of_succ_lt enough) 0 ⟨1, 0⟩ ⟨2, 4⟩ ?_
      rw [rowsBytes_cons, mark.rowBytes_gone, List.append_assoc, dropMark_marked]
      -- The line feed that ended the row is now a blank line.
      rfl
  · have unmarked : ∀ cell rest others text, rows = (cell :: rest) :: others →
        ¬ BareMark delimiter cell text :=
      fun cell rest others text same mark => marked ⟨cell, rest, others, text, same, mark⟩
    refine ⟨rows, .whole unmarked, read_rowsBytes separates wide ?_⟩
    cases rows with
    | nil =>
        intro marked
        cases marked
    | cons row others =>
        obtain ⟨first, rest, rfl⟩ := List.exists_cons_of_ne_nil (wide row (List.mem_cons_self ..))
        rw [rowsBytes_cons]
        cases quoted : needsQuotes delimiter (Utf8.encode first.toList) with
        | true => exact rowBytes_quoted_unmarked quoted rest _
        | false =>
            refine rowBytes_unmarked ascii first (fun begins => ?_) rest _
            obtain ⟨text, chars⟩ := List.head?_eq_some_iff.1 begins
            exact unmarked first rest others text rfl ⟨chars, quoted⟩

theorem ReadsBack.even {written found : List (List String)} {width : Nat}
    (back : ReadsBack delimiter written found) (even : ∀ row ∈ written, row.length = width) :
    ∀ row ∈ found, row.length = width := by
  intro row member
  cases back with
  | whole _ => exact even row member
  | cut mark rest others _ =>
      rcases List.mem_cons.1 member with rfl | member
      · have first := even _ (List.mem_cons_self ..)
        simpa using first
      · exact even row (List.mem_cons_of_mem _ member)
  | gone mark others => exact even row (List.mem_cons_of_mem _ member)

end Rows

end Sluice
