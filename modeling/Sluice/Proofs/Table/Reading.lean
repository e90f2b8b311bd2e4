import Mathlib.Data.List.Forall2
import Sluice.Catalog
import Sluice.Proofs.Outcome

/-!
# Which files are tables

A file is read as a table if every row of it can be read, and then as one record for each row of
data; otherwise it yields nothing.  What stands in one file is all that decides about it.
-/

set_option autoImplicit false

namespace Sluice

/-! ## Delimited text -/

namespace DelimitedFormat

variable {format : DelimitedFormat} {file : String} {header : Option (List String)}

inductive Divides (format : DelimitedFormat) :
    List Rows.Row → Option (List String) → List Rows.Row → Prop where
  | bare (off : format.hasHeader = false) (rows : List Rows.Row) : Divides format rows none rows
  | headed (on : format.hasHeader = true) (header : Rows.Row) (data : List Rows.Row) :
      Divides format (header :: data) (some header.cells) data
  | empty (on : format.hasHeader = true) : Divides format [] none []

/-- The delivered text consists of rows, all of one width, and each row of data can be read. -/
inductive Tabulates (format : DelimitedFormat) (delivery : Delivery) : List Record → Prop where
  | rows {rows data : List Rows.Row} {header : Option (List String)} {records : List Record}
      (width : Nat) (delivers : Rows.read format.delimiter delivery = rows.map .ok)
      (divides : format.Divides rows header data)
      (even : ∀ row ∈ rows, row.cells.length = width)
      (reads : List.Forall₂ (fun row record => format.readRow header row.cells = .ok record)
        data records) :
      Tabulates format delivery records

theorem readRows_eq_ok {width : Nat} {rows : List (Except DelimitedFault Rows.Row)}
    {records : List Record} :
    format.readRows file header (some width) rows = .ok records ↔
      ∃ data, rows = data.map .ok ∧ (∀ row ∈ data, row.cells.length = width) ∧
        List.Forall₂ (fun row record => format.readRow header row.cells = .ok record)
          data records := by
  constructor
  · intro reads
    induction rows generalizing records with
    | nil =>
        cases reads
        exact ⟨[], rfl, by simp, .nil⟩
    | cons first rest ih =>
        cases first with
        | error fault => cases reads
        | ok row =>
            rw [readRows] at reads
            dsimp only [Option.getD_some] at reads
            by_cases even : row.cells.length = width
            · rw [if_neg (not_not_intro even)] at reads
              obtain ⟨record, readsRow, reads⟩ := Outcome.bind_eq_ok.1 reads
              obtain ⟨others, readsRest, reads⟩ := Outcome.bind_eq_ok.1 reads
              obtain rfl := Except.ok.inj reads
              obtain ⟨data, rfl, evenRest, readsData⟩ := ih readsRest
              refine ⟨row :: data, rfl, ?_, .cons readsRow readsData⟩
              intro other member
              rcases List.mem_cons.1 member with rfl | member
              · exact even
              · exact evenRest other member
            · rw [if_pos even] at reads
              cases reads
  · rintro ⟨data, rfl, even, reads⟩
    induction reads with
    | nil => rfl
    | @cons row record data records readsRow readsRest ih =>
        have evenRow : row.cells.length = width := even row (List.mem_cons_self ..)
        have following := ih fun other member => even other (List.mem_cons_of_mem _ member)
        rw [List.map_cons, readRows]
        simp [evenRow, readsRow, following]

/-- Without a header, the first row decides how wide the rows must be. -/
theorem readRows_none (row : Rows.Row) (rest : List (Except DelimitedFault Rows.Row)) :
    format.readRows file header none (.ok row :: rest) =
      format.readRows file header (some row.cells.length) (.ok row :: rest) := by
  rw [readRows, readRows]
  rfl

theorem readFile_eq_ok {delivery : Delivery} {records : List Record} :
    format.readFile file delivery = .ok records ↔ format.Tabulates delivery records := by
  constructor
  · intro reads
    rw [readFile] at reads
    cases on : format.hasHeader with
    | true =>
        rw [on] at reads
        rw [if_pos rfl] at reads
        rcases delivers : Rows.read format.delimiter delivery with _ | ⟨_ | first, rest⟩
        · rw [delivers] at reads
          cases reads
          have noRows : Rows.read format.delimiter delivery =
              ([] : List Rows.Row).map .ok := delivers
          exact .rows 0 noRows (.empty on) (by simp) .nil
        · rw [delivers] at reads
          cases reads
        · rw [delivers] at reads
          obtain ⟨data, rfl, even, readsData⟩ := readRows_eq_ok.1 reads
          have whole : Rows.read format.delimiter delivery = (first :: data).map .ok := delivers
          refine .rows first.cells.length whole (.headed on first data) ?_ readsData
          intro row member
          rcases List.mem_cons.1 member with rfl | member
          · rfl
          · exact even row member
    | false =>
        rw [on] at reads
        rw [if_neg Bool.false_ne_true] at reads
        rcases delivers : Rows.read format.delimiter delivery with _ | ⟨_ | first, rest⟩
        · rw [delivers] at reads
          cases reads
          have noRows : Rows.read format.delimiter delivery =
              ([] : List Rows.Row).map .ok := delivers
          exact .rows 0 noRows (.bare on []) (by simp) .nil
        · rw [delivers] at reads
          cases reads
        · rw [delivers, readRows_none] at reads
          obtain ⟨data, whole, even, readsData⟩ := readRows_eq_ok.1 reads
          exact .rows _ (delivers.trans whole) (.bare on data) even readsData
  · rintro ⟨width, delivers, divides, even, reads⟩
    rw [readFile, delivers]
    cases divides with
    | bare off rows =>
        rw [off, if_neg Bool.false_ne_true]
        cases reads with
        | nil => rfl
        | @cons row record rest others readsRow readsRest =>
            rw [List.map_cons, readRows_none, even row (List.mem_cons_self ..)]
            exact readRows_eq_ok.2 ⟨row :: rest, rfl, even, .cons readsRow readsRest⟩
    | headed on first _ =>
        rw [on, if_pos rfl, List.map_cons]
        dsimp only
        rw [even first (List.mem_cons_self ..)]
        refine readRows_eq_ok.2 ⟨_, rfl, fun row member => ?_, reads⟩
        exact even row (List.mem_cons_of_mem _ member)
    | empty on =>
        cases reads
        rw [on]
        rfl

end DelimitedFormat

/-! ## Columns of fixed width -/

namespace FixedWidthFormat

variable {format : FixedWidthFormat}

/-- The lines below the header, if one is configured, each with its number. -/
def dataLines (format : FixedWidthFormat) (delivery : Delivery) :
    List (Except StreamFault (List Char) × Nat) :=
  (delivery.lines.zipIdx 1).drop (if format.hasHeader then 1 else 0)

def IsData (line : List Char × Nat) : Bool := !(dropReturn line.1).all isBlank

structure ReadsAs (format : FixedWidthFormat) (fault : Option StreamFault)
    (numbered : List (Except StreamFault (List Char) × Nat)) (records : List Record) : Prop where
  whole : fault = none
  reads : ∃ lines : List (List Char × Nat),
    numbered = lines.map (fun line => (.ok line.1, line.2)) ∧
      List.Forall₂ (fun line record => format.readLine (dropReturn line.1) line.2 = .ok record)
        (lines.filter IsData) records

def Tabulates (format : FixedWidthFormat) (delivery : Delivery) (records : List Record) : Prop :=
  format.ReadsAs delivery.fault (format.dataLines delivery) records

section Lines

variable {fault : Option StreamFault} {number : Nat} {text : List Char}
  {rest : List (Except StreamFault (List Char) × Nat)} {records : List Record}

theorem readsAs_nil : format.ReadsAs fault [] records ↔ fault = none ∧ records = [] := by
  constructor
  · rintro ⟨whole, lines, delivers, reads⟩
    obtain rfl := List.map_eq_nil_iff.1 delivers.symm
    cases reads
    exact ⟨whole, rfl⟩
  · rintro ⟨whole, rfl⟩
    exact ⟨whole, [], rfl, .nil⟩

theorem not_readsAs_fault (met : StreamFault) :
    ¬ format.ReadsAs fault ((.error met, number) :: rest) records := by
  rintro ⟨_, lines, delivers, _⟩
  cases lines with
  | nil => cases delivers
  | cons first others => cases (List.cons.inj delivers).1

theorem readsAs_cons : format.ReadsAs fault ((.ok text, number) :: rest) records ↔
    if (dropReturn text).all isBlank then format.ReadsAs fault rest records
    else ∃ record others, records = record :: others ∧
      format.readLine (dropReturn text) number = .ok record ∧ format.ReadsAs fault rest others := by
  have splits : format.ReadsAs fault ((.ok text, number) :: rest) records ↔ fault = none ∧
      ∃ lines : List (List Char × Nat), rest = lines.map (fun line => (.ok line.1, line.2)) ∧
        List.Forall₂ (fun line record => format.readLine (dropReturn line.1) line.2 = .ok record)
          (((text, number) :: lines).filter IsData) records := by
    constructor
    · rintro ⟨whole, lines, delivers, reads⟩
      obtain ⟨⟨first, place⟩, others, rfl, same, rfl⟩ := List.map_eq_cons_iff.1 delivers.symm
      obtain ⟨sameText, rfl⟩ := Prod.mk.inj same
      obtain rfl := Except.ok.inj sameText
      exact ⟨whole, others, rfl, reads⟩
    · rintro ⟨whole, lines, rfl, reads⟩
      exact ⟨whole, (text, number) :: lines, rfl, reads⟩
  rw [splits]
  by_cases blank : (dropReturn text).all isBlank = true
  · have skipped : ¬ IsData (text, number) = true := by simp [IsData, blank]
    rw [if_pos blank]
    simp only [List.filter_cons_of_neg skipped]
    exact ⟨fun ⟨whole, reads⟩ => ⟨whole, reads⟩, fun ⟨whole, reads⟩ => ⟨whole, reads⟩⟩
  · have kept : IsData (text, number) = true := by simpa [IsData] using blank
    rw [if_neg blank]
    simp only [List.filter_cons_of_pos kept]
    constructor
    · rintro ⟨whole, lines, delivers, reads⟩
      obtain ⟨record, others, readsLine, readsRest, rfl⟩ := List.forall₂_cons_left_iff.1 reads
      exact ⟨record, others, rfl, readsLine, whole, lines, delivers, readsRest⟩
    · rintro ⟨record, others, rfl, readsLine, whole, lines, delivers, readsRest⟩
      exact ⟨whole, lines, delivers, .cons readsLine readsRest⟩

theorem readLines_nil :
    format.readLines fault number [] = .ok records ↔ fault = none ∧ records = [] := by
  cases fault with
  | some met => simp [readLines]
  | none => simp [readLines, eq_comm]

end Lines

theorem readLines_eq_ok {fault : Option StreamFault} {number : Nat}
    {lines : List (Except StreamFault (List Char))} {records : List Record} (counted : 0 < number)
    (below : number = 1 → format.hasHeader = false) :
    format.readLines fault number lines = .ok records ↔
      format.ReadsAs fault (lines.zipIdx number) records := by
  induction lines generalizing number records with
  | nil =>
      rw [List.zipIdx_nil, readsAs_nil]
      exact readLines_nil
  | cons first rest ih =>
      have notHeader : ¬ (number = 1 ∧ format.hasHeader = true) := by
        rintro ⟨isFirst, on⟩
        rw [below isFirst] at on
        exact Bool.false_ne_true on
      have following : ∀ {records : List Record},
          format.readLines fault (number + 1) rest = .ok records ↔
            format.ReadsAs fault (rest.zipIdx (number + 1)) records :=
        ih (by omega) (by omega)
      rw [List.zipIdx_cons]
      cases first with
      | error met =>
          rw [readLines, if_neg notHeader]
          refine ⟨fun reads => ?_, fun reads => (not_readsAs_fault met reads).elim⟩
          cases reads
      | ok text =>
          rw [readLines, if_neg notHeader, readsAs_cons]
          dsimp only
          split
          · exact following
          · simp only [Outcome.bind_eq_ok, following, Except.ok.injEq]
            grind

theorem readFile_eq_ok {delivery : Delivery} {records : List Record} :
    format.readFile delivery = .ok records ↔ format.Tabulates delivery records := by
  rw [readFile, Tabulates, dataLines]
  cases on : format.hasHeader with
  | false => exact readLines_eq_ok (by omega) fun _ => on
  | true =>
      rw [if_pos rfl]
      cases delivery.lines with
      | nil =>
          rw [List.zipIdx_nil, List.drop_nil, readsAs_nil]
          exact readLines_nil
      | cons header rest =>
          have skips : format.readLines delivery.fault 1 (header :: rest) =
              format.readLines delivery.fault 2 rest := by
            cases header <;> rw [readLines, if_pos ⟨rfl, on⟩]
          rw [skips]
          exact readLines_eq_ok (by omega) (by omega)

end FixedWidthFormat

end Sluice
