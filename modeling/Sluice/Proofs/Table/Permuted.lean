import Mathlib.Data.Fin.VecNotation
import Mathlib.Data.List.FinRange
import Mathlib.Data.List.Forall2
import Sluice.Proofs.Table.Named

/-!
# Columns in another order

A table lists its columns in some order.  Where columns are found by their names, this order does
not matter: each cell gives what it would give elsewhere in its row, a row fails in either order or
in none, and no two of its cells meet under one name, so that their order decides nothing.
-/

set_option autoImplicit false

namespace Sluice

def Record.SameFields (record other : Record) : Prop := record.fields.Perm other.fields

structure HeadedTable (width : Nat) where
  header : Fin width → String
  rows : List (Fin width → String)

namespace HeadedTable

variable {width : Nat}

def names (table : HeadedTable width) : List String := List.ofFn table.header

def cells (table : HeadedTable width) : List (List String) := table.rows.map List.ofFn

def permute (table : HeadedTable width) (order : Equiv.Perm (Fin width)) : HeadedTable width :=
  ⟨table.header ∘ order, table.rows.map (· ∘ order)⟩

/-- A header that names no column is not called like the field of one. -/
def Clear (table : HeadedTable width) (format : DelimitedFormat) : Prop :=
  ∀ place, (∀ column ∈ format.columns, column.name ≠ some (table.header place)) →
    ∀ column ∈ format.columns, column.conversion.field ≠ table.header place

theorem Clear.not_shadows {table : HeadedTable width} {format : DelimitedFormat}
    (clear : table.Clear format) (place : Fin width) (typed : String) :
    ¬ format.Shadows (table.header place) typed := by
  rintro ⟨unnamed, column, member, _, shadowed⟩
  exact clear place unnamed column member shadowed

def DeliveredBy (table : HeadedTable width) (format : DelimitedFormat) (delivery : Delivery) :
    Prop :=
  ∃ found : List Rows.Row, Rows.read format.delimiter delivery = found.map .ok ∧
    found.map (·.cells) = table.names :: table.cells

end HeadedTable

namespace DelimitedFormat

variable {format : DelimitedFormat} {width : Nat}

/-! ## One row -/

theorem ByName.cellOutcomes_ofFn (byName : format.ByName) (header row : Fin width → String) :
    format.cellOutcomes (some (List.ofFn header)) (List.ofFn row) =
      List.ofFn fun place => format.headedCell (header place) (row place) := by
  refine List.ext_getElem? fun position => ?_
  rw [getElem?_cellOutcomes, List.getElem?_ofFn, List.getElem?_ofFn]
  by_cases within : position < width
  · have heads : (List.ofFn header)[position]? = some (header ⟨position, within⟩) := by
      rw [List.getElem?_ofFn, dif_pos within]
    rw [dif_pos within, dif_pos within, Option.map_some, byName.readCell_headed heads]
  · rw [dif_neg within, dif_neg within, Option.map_none]

theorem ByName.cellOutcomes_permuted (byName : format.ByName) (header row : Fin width → String)
    (order : Equiv.Perm (Fin width)) :
    (format.cellOutcomes (some (List.ofFn header)) (List.ofFn row)).Perm
      (format.cellOutcomes (some (List.ofFn (header ∘ order))) (List.ofFn (row ∘ order))) := by
  rw [byName.cellOutcomes_ofFn, byName.cellOutcomes_ofFn]
  exact (order.ofFn_comp_perm fun place => format.headedCell (header place) (row place)).symm

/-- A row gives the same fields in either order of the columns, or else it gives none. -/
theorem ByName.readRow_permuted (byName : format.ByName) {table : HeadedTable width}
    (distinct : Function.Injective table.header) (clear : table.Clear format)
    (row : Fin width → String) (order : Equiv.Perm (Fin width)) :
    Outcome.Agree Record.SameFields
      (format.readRow (some table.names) (List.ofFn row))
      (format.readRow (some (table.permute order).names) (List.ofFn (row ∘ order))) := by
  have perm := byName.cellOutcomes_permuted table.header row order
  rw [readRow_eq, readRow_eq]
  refine (Outcome.gather_perm perm).map fun given others gathers perm => ?_
  -- As no name is given twice, what is given is what the records hold.
  have once : (given.reduceOption.map Prod.fst).Nodup := by
    refine byName.nodup_names (Outcome.gather_eq_ok.1 gathers) (List.nodup_ofFn.2 distinct) ?_
    intro one _ two _ plain typed heads _
    obtain ⟨place, rfl⟩ := List.mem_ofFn.1 (List.mem_of_getElem? heads)
    exact clear.not_shadows place typed
  have kept : given.reduceOption.Perm others.reduceOption := perm.filterMap id
  have onceToo := ((kept.map Prod.fst).nodup_iff).1 once
  rw [Record.SameFields, Record.ofPairs_fields _ once, Record.ofPairs_fields _ onceToo]
  exact kept

/-! ## All rows -/

/-- Two rows of one width, each below its header, give the same fields, or both of them none. -/
structure RowsAlike (format : DelimitedFormat) (width : Nat)
    (header headerToo row rowToo : List String) : Prop where
  even : row.length = width
  evenToo : rowToo.length = width
  reads : Outcome.Agree Record.SameFields (format.readRow (some header) row)
    (format.readRow (some headerToo) rowToo)

theorem readRows_cons {file : String} {header : Option (List String)} {row : Rows.Row}
    {rest : List (Except DelimitedFault Rows.Row)} (even : row.cells.length = width) :
    format.readRows file header (some width) (.ok row :: rest) = (do
      let record ← format.readRow header row.cells
      .ok (record :: (← format.readRows file header (some width) rest))) := by
  rw [readRows, Option.getD_some, if_neg (not_not_intro even)]

/-- What holds of row and row holds of all rows. -/
theorem readRows_alike (file other : String) {header headerToo : List String}
    {rows rowsToo : List Rows.Row} (alike : List.Forall₂
      (fun row rowToo => format.RowsAlike width header headerToo row.cells rowToo.cells)
      rows rowsToo) :
    Outcome.Agree (List.Forall₂ Record.SameFields)
      (format.readRows file (some header) (some width) (rows.map .ok))
      (format.readRows other (some headerToo) (some width) (rowsToo.map .ok)) := by
  induction alike with
  | nil => exact .done .nil
  | cons first _ ih =>
      rw [List.map_cons, List.map_cons, readRows_cons first.even, readRows_cons first.evenToo]
      refine first.reads.bind fun record recordToo same => ?_
      exact ih.bind fun records recordsToo others => .done (.cons same others)

theorem ByName.cells_alike (byName : format.ByName) {table : HeadedTable width}
    (distinct : Function.Injective table.header) (clear : table.Clear format)
    (order : Equiv.Perm (Fin width)) :
    List.Forall₂ (format.RowsAlike width table.names (table.permute order).names)
      table.cells (table.permute order).cells := by
  rw [HeadedTable.cells, HeadedTable.cells, HeadedTable.permute, List.map_map,
    List.forall₂_map_left_iff, List.forall₂_map_right_iff, List.forall₂_same]
  intro row _
  exact ⟨List.length_ofFn, List.length_ofFn, byName.readRow_permuted distinct clear row order⟩

/-- The rows below the header are read with the header's width. -/
theorem readFile_delivered (on : format.hasHeader = true) (file : String)
    {table : HeadedTable width} {delivery : Delivery}
    (delivers : table.DeliveredBy format delivery) :
    ∃ rows : List Rows.Row, rows.map (·.cells) = table.cells ∧
      format.readFile file delivery =
        format.readRows file (some table.names) (some width) (rows.map .ok) := by
  obtain ⟨found, reads, stand⟩ := delivers
  obtain ⟨header, rows, rfl, heads, stand⟩ := List.map_eq_cons_iff.1 stand
  refine ⟨rows, stand, ?_⟩
  rw [readFile, reads, on, if_pos rfl, List.map_cons]
  dsimp only
  rw [heads, HeadedTable.names, List.length_ofFn]

/-- Where the columns of a table are found by their names, their order does not matter: each row
gives the same fields or fails in both orders, and so does a file as a whole. -/
theorem column_order_irrelevant (on : format.hasHeader = true) (byName : format.ByName)
    (table : HeadedTable width) (distinct : Function.Injective table.header)
    (clear : table.Clear format) (order : Equiv.Perm (Fin width)) :
    List.Forall₂ (fun row permuted => Outcome.Agree Record.SameFields
        (format.readRow (some table.names) row)
        (format.readRow (some (table.permute order).names) permuted))
      table.cells (table.permute order).cells ∧
    ∀ (file other : String) (delivery permuted : Delivery), table.DeliveredBy format delivery →
      (table.permute order).DeliveredBy format permuted →
        Outcome.Agree (List.Forall₂ Record.SameFields)
          (format.readFile file delivery) (format.readFile other permuted) := by
  have alike := byName.cells_alike distinct clear order
  refine ⟨alike.imp fun _ _ both => both.reads, ?_⟩
  intro file other delivery permuted delivers deliversToo
  obtain ⟨rows, stand, reads⟩ := readFile_delivered on file delivers
  obtain ⟨rowsToo, standToo, readsToo⟩ := readFile_delivered on other deliversToo
  rw [← stand, ← standToo, List.forall₂_map_left_iff, List.forall₂_map_right_iff] at alike
  rw [reads, readsToo]
  exact readRows_alike file other alike

/-- The second column first: the integer is found by its name, the text is kept beside it. -/
theorem column_order_irrelevant_swapped :
    let column : DelimitedColumn := ⟨some "a", none, ⟨.integer, "", "n"⟩⟩
    let format : DelimitedFormat := ⟨true, false, false, 44, [column]⟩
    let table : HeadedTable 2 := ⟨!["a", "b"], [!["1", "x"]]⟩
    let order : Equiv.Perm (Fin 2) := Equiv.swap 0 1
    let text (content : String) : Delivery := ⟨Utf8.encode content.toList, none⟩
    format.hasHeader = true ∧ format.ByName ∧ Function.Injective table.header ∧
      table.Clear format ∧ table.DeliveredBy format (text "a,b\n1,x\n") ∧
      (table.permute order).DeliveredBy format (text "b,a\nx,1\n") ∧
      ∃ record other, format.readFile "one.csv" (text "a,b\n1,x\n") = .ok [record] ∧
        format.readFile "two.csv" (text "b,a\nx,1\n") = .ok [other] ∧
        record.fields = [("n", .int 1), ("b", .text "x")] ∧ record.SameFields other := by
  intro column format table order text
  have byName : format.ByName :=
    ⟨by simp [format, column], by simp [NamesDiffer, format, column], by simp [format], by
      simp [format, column]⟩
  have distinct : Function.Injective table.header := by
    unfold Function.Injective
    decide
  have clear : table.Clear format := by
    intro place _ other member
    obtain rfl : other = column := by simpa [format] using member
    revert place
    decide
  have delivers : table.DeliveredBy format (text "a,b\n1,x\n") :=
    ⟨[⟨_, ["a", "b"]⟩, ⟨_, ["1", "x"]⟩], rfl, rfl⟩
  have deliversToo : (table.permute order).DeliveredBy format (text "b,a\nx,1\n") :=
    ⟨[⟨_, ["b", "a"]⟩, ⟨_, ["x", "1"]⟩], rfl, rfl⟩
  refine ⟨rfl, byName, distinct, clear, delivers, deliversToo,
    .ofPairs [("n", .int 1), ("b", .text "x")],
    .ofPairs [("b", .text "x"), ("n", .int 1)], rfl, rfl, rfl, ?_⟩
  obtain ⟨_, files⟩ := column_order_irrelevant rfl byName table distinct clear order
  cases files "one.csv" "two.csv" _ _ delivers deliversToo with
  | done same => exact (List.forall₂_cons.1 same).1

end DelimitedFormat

end Sluice
