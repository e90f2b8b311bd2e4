import Sluice.Proofs.Number.Reading
import Sluice.Proofs.Record
import Sluice.Proofs.Table.Published

/-!
# Written tables are read back

Texts and integers that are written to a delimited file under the names of some columns are what
the reader of that file finds under these names.
-/

set_option autoImplicit false

namespace Sluice

def Record.restrict (names : List String) (record : Record) : Record :=
  .ofPairs (names.filterMap fun name => (record.get? name).map fun value => (name, value))

inductive Datatype.Fits : Datatype → Value → Prop where
  | text (text : String) : Fits .text (.text text)
  | integer (number : Int64) : Fits .integer (.int number)

structure NamedColumn where
  name : String
  datatype : Datatype

namespace NamedColumn

def settings (column : NamedColumn) : Settings :=
  [("columnName", .text column.name), ("datatype", .text column.datatype.name),
    ("fieldName", .text column.name)]

def conversion (column : NamedColumn) : Conversion := ⟨column.datatype, "", column.name⟩

def delimited (column : NamedColumn) : DelimitedColumn :=
  ⟨some column.name, none, column.conversion⟩

/-- The record holds under the name what the column can give back. -/
def Fits (column : NamedColumn) (record : Record) : Prop :=
  ∃ value, record.get? column.name = some value ∧ column.datatype.Fits value

end NamedColumn

structure Delimits (c : Char) : Prop where
  ascii : c.toNat < 128
  not_quote : c ≠ '"'
  not_return : c ≠ '\r'
  not_feed : c ≠ '\n'

structure WritesColumns (settings : Settings) (delimiter : Char) (names : List String) : Prop where
  header : settings.get? "header" = some (.text "true")
  names : settings.get? "headerValue" = some (.list (names.map Json.text))
  delimiter : settings.get? "delimiter" = some (.text (String.ofList [delimiter]))
  filename : ∃ filename, settings.get? "filename" = some (.text filename)
  policy : ∃ policy, settings.entryPolicy = .ok policy

structure ReadsColumns (settings : Settings) (delimiter : Char) (columns : List NamedColumn) :
    Prop where
  header : settings.get? "hasHeaderRow" = some (.bool true)
  columns : settings.get? "columns" =
    some (.list (columns.map fun column => .object column.settings))
  delimiter : settings.get? "delimiter" = some (.text (String.ofList [delimiter]))
  namesByHeader : ∃ flag, settings.optionalBool "useHeaderColumnNamesAsFieldNames" false = .ok flag
  ignoresUnmapped : ∃ flag, settings.optionalBool "ignoreUnmappedColumns" false = .ok flag
  policy : ∃ policy, settings.entryPolicy = .ok policy

/-! ## Settings -/

theorem delimiter_of_get {settings : Settings} {key : String} {c : Char} (delimits : Delimits c)
    (found : settings.get? key = some (.text (String.ofList [c]))) (default : UInt8) :
    settings.delimiter key default = .ok (UInt8.ofNat c.toNat) := by
  rw [Settings.delimiter, Settings.optionalText, found]
  simp [delimits.ascii]

theorem readFields_texts (index : Nat) (names : List String) :
    DelimitedLayout.readFields index (names.map Json.text) = .ok names := by
  induction names generalizing index with
  | nil => rfl
  | cons name rest ih =>
      rw [List.map_cons, DelimitedLayout.readFields, ih]
      rfl

theorem writer_settled {settings : Settings} {delimiter : Char} (delimits : Delimits delimiter)
    {names : List String} {filename : String} {policy : Settings.EntryPolicy}
    (listed : settings.get? "headerValue" = some (.list (names.map Json.text)))
    (separated : settings.get? "delimiter" = some (.text (String.ofList [delimiter])))
    (called : settings.get? "filename" = some (.text filename))
    (known : settings.entryPolicy = .ok policy) :
    generateDelimited.settle settings = .ok (DelimitedLayout.stage
      ⟨DelimitedLayout.asksHeader (settings.get? "header"), names, UInt8.ofNat delimiter.toNat,
        filename⟩ policy) := by
  refine DelimitedLayout.settle_eq_ok.2 ⟨_, policy, ?_, known, rfl⟩
  have list : settings.requiredList DelimitedLayout.fieldsKey = .ok (names.map Json.text) := by
    rw [Settings.requiredList, Settings.required, DelimitedLayout.fieldsKey, listed]
    rfl
  have asked : settings.required "delimiter" = .ok (.text (String.ofList [delimiter])) := by
    rw [Settings.required, separated]
  have file : settings.requiredText "filename" = .ok filename := by
    rw [Settings.requiredText, Settings.required, called]
    rfl
  simp only [DelimitedLayout.ofSettings, list, asked, file, readFields_texts,
    delimiter_of_get delimits separated, Outcome.ok_bind]

theorem WritesColumns.settled {settings : Settings} {delimiter : Char} {names : List String}
    (writes : WritesColumns settings delimiter names) (delimits : Delimits delimiter) :
    ∃ filename policy, generateDelimited.settle settings = .ok (DelimitedLayout.stage
      ⟨true, names, UInt8.ofNat delimiter.toNat, filename⟩ policy) := by
  obtain ⟨filename, called⟩ := writes.filename
  obtain ⟨policy, known⟩ := writes.policy
  have settled := writer_settled delimits writes.names writes.delimiter called known
  rw [writes.header] at settled
  exact ⟨filename, policy, settled⟩

/-- The settings of a reader come to a format once their columns are read. -/
theorem reader_settled {settings : Settings} {delimiter : Char} (delimits : Delimits delimiter)
    {hasHeader namesByHeader ignoresUnmapped : Bool} {items : List Json}
    {columns : List DelimitedColumn} {policy : Settings.EntryPolicy}
    (header : settings.optionalBool "hasHeaderRow" false = .ok hasHeader)
    (byHeader : settings.optionalBool "useHeaderColumnNamesAsFieldNames" false =
      .ok namesByHeader)
    (ignores : settings.optionalBool "ignoreUnmappedColumns" false = .ok ignoresUnmapped)
    (listed : settings.get? "columns" = some (.list items))
    (read : Settings.readItems "columns" (DelimitedColumn.ofSettings namesByHeader) 0 items =
      .ok columns)
    (separated : settings.get? "delimiter" = some (.text (String.ofList [delimiter])))
    (known : settings.entryPolicy = .ok policy) :
    parseDelimited.settle settings = .ok (.handling policy (Run.handleTable
      (DelimitedFormat.readFile ⟨hasHeader, namesByHeader, ignoresUnmapped,
        UInt8.ofNat delimiter.toNat, columns⟩))) := by
  refine DelimitedFormat.settle_eq_ok.2 ⟨_, policy, ?_, known, rfl⟩
  have list : settings.requiredList "columns" = .ok items := by
    rw [Settings.requiredList, Settings.required, listed]
    rfl
  simp only [DelimitedFormat.ofSettings, header, byHeader, ignores, Settings.columns, list, read,
    delimiter_of_get delimits separated, Outcome.ok_bind]

theorem ofName_name (datatype : Datatype) : Datatype.ofName datatype.name = .ok datatype := by
  cases datatype <;> rfl

theorem NamedColumn.ofSettings_settings (column : NamedColumn) (namesByHeader : Bool) :
    DelimitedColumn.ofSettings namesByHeader column.settings = .ok column.delimited := by
  have named : Settings.optionalText column.settings "columnName" = .ok (some column.name) := rfl
  have unplaced : Settings.optionalSize column.settings "index" = .ok none := rfl
  have datatype : Settings.requiredText column.settings Datatype.datatypeKey =
    .ok column.datatype.name := rfl
  have unformatted : Settings.optionalText column.settings "format" = .ok none := rfl
  have field : Settings.requiredText column.settings Conversion.fieldKey = .ok column.name := rfl
  have fieldText : Settings.optionalText column.settings Conversion.fieldKey =
    .ok (some column.name) := rfl
  have converts : Conversion.ofSettings column.settings namesByHeader = .ok column.conversion := by
    cases namesByHeader <;>
      simp [Conversion.ofSettings, datatype, unformatted, field, fieldText, ofName_name,
        conversion, Except.map]
  simp [DelimitedColumn.ofSettings, named, unplaced, converts, delimited]

theorem readItems_settings (namesByHeader : Bool) (index : Nat) (columns : List NamedColumn) :
    Settings.readItems "columns" (DelimitedColumn.ofSettings namesByHeader) index
      (columns.map fun column => .object column.settings) =
        .ok (columns.map NamedColumn.delimited) := by
  induction columns generalizing index with
  | nil => rfl
  | cons column rest ih =>
      rw [List.map_cons, Settings.readItems, ih]
      simp [Settings.ofItem, column.ofSettings_settings, Except.mapError]

theorem ReadsColumns.settled {settings : Settings} {delimiter : Char} {columns : List NamedColumn}
    (reads : ReadsColumns settings delimiter columns) (delimits : Delimits delimiter) :
    ∃ namesByHeader ignoresUnmapped policy, parseDelimited.settle settings =
      .ok (.handling policy (Run.handleTable (DelimitedFormat.readFile
        ⟨true, namesByHeader, ignoresUnmapped, UInt8.ofNat delimiter.toNat,
          columns.map NamedColumn.delimited⟩))) := by
  obtain ⟨namesByHeader, byHeader⟩ := reads.namesByHeader
  obtain ⟨ignoresUnmapped, ignores⟩ := reads.ignoresUnmapped
  obtain ⟨policy, known⟩ := reads.policy
  have header : settings.optionalBool "hasHeaderRow" false = .ok true := by
    rw [Settings.optionalBool, reads.header]
  exact ⟨namesByHeader, ignoresUnmapped, policy, reader_settled delimits header byHeader ignores
    reads.columns (readItems_settings namesByHeader 0 columns) reads.delimiter known⟩

theorem Delimits.byte {c : Char} (delimits : Delimits c) :
    (UInt8.ofNat c.toNat).toNat = c.toNat := by
  have small := delimits.ascii
  rw [UInt8.toNat_ofNat', Nat.mod_eq_of_lt (by omega)]

theorem Delimits.separates {c : Char} (delimits : Delimits c) :
    Rows.Separates (UInt8.ofNat c.toNat) := by
  have other : ∀ (d : Char), d.toNat < 128 → c ≠ d → UInt8.ofNat c.toNat ≠ UInt8.ofNat d.toNat := by
    intro d small differs same
    have numbers := congrArg UInt8.toNat same
    rw [delimits.byte, UInt8.toNat_ofNat', Nat.mod_eq_of_lt (by omega)] at numbers
    exact differs (Char.toNat_inj.1 numbers)
  refine ⟨other '"' (by decide) delimits.not_quote, ?_⟩
  have notFeed : UInt8.ofNat c.toNat ≠ 10 := other '\n' (by decide) delimits.not_feed
  have notReturn : UInt8.ofNat c.toNat ≠ 13 := other '\r' (by decide) delimits.not_return
  simp [Rows.isLineEnd, notFeed, notReturn]

/-! ## One row -/

theorem Datatype.Fits.convert_display {datatype : Datatype} {value : Value}
    (fits : datatype.Fits value) (format field : String) :
    Conversion.convert ⟨datatype, format, field⟩ value.display = .ok value := by
  cases fits with
  | text text => rfl
  | integer number =>
      rw [Conversion.convert]
      dsimp only [Value.display]
      rw [readInt_intText]

section Columns

variable {namesByHeader ignoresUnmapped : Bool} {delimiter : UInt8} {columns : List NamedColumn}

theorem byHeader?_columns (distinct : (columns.map NamedColumn.name).Nodup) {column : NamedColumn}
    (member : column ∈ columns) :
    DelimitedFormat.byHeader? ⟨true, namesByHeader, ignoresUnmapped, delimiter,
      columns.map NamedColumn.delimited⟩ column.name = some column.delimited := by
  rw [DelimitedFormat.byHeader?]
  dsimp only
  induction columns with
  | nil => cases member
  | cons first rest ih =>
      obtain ⟨fresh, distinctRest⟩ := List.nodup_cons.1 distinct
      rcases List.mem_cons.1 member with rfl | later
      · simp [NamedColumn.delimited]
      · have differs : first.name ≠ column.name := fun same =>
          fresh (same ▸ List.mem_map_of_mem later)
        rw [List.map_cons, List.find?_cons_of_neg (by simpa [NamedColumn.delimited] using differs)]
        exact ih distinctRest later

theorem conversionOf_delimited (column : NamedColumn) :
    DelimitedFormat.conversionOf column.delimited (some column.name) = column.conversion := by
  rw [DelimitedFormat.conversionOf]
  split <;> rfl

/-- Reading the cells of a record sets its fields, column by column. -/
theorem readCells_columns (distinct : (columns.map NamedColumn.name).Nodup) {record : Record}
    (fits : ∀ column ∈ columns, column.Fits record) (earlier rest : List NamedColumn)
    (whole : columns = earlier ++ rest) (base : Record) :
    DelimitedFormat.readCells ⟨true, namesByHeader, ignoresUnmapped, delimiter,
        columns.map NamedColumn.delimited⟩ (some (columns.map NamedColumn.name)) earlier.length
        (rest.map fun column => (record.getOrNull column.name).display) base =
      .ok ((rest.map fun column => (column.name, record.getOrNull column.name)).foldl
        (fun row pair => row.set pair.1 pair.2) base) := by
  induction rest generalizing earlier base with
  | nil => rfl
  | cons column later ih =>
      have member : column ∈ columns := by simp [whole]
      obtain ⟨value, found, fitting⟩ := fits column member
      have held : record.getOrNull column.name = value := by rw [Record.getOrNull, found]; rfl
      have header : (some (columns.map NamedColumn.name)).bind
          (fun names => names[earlier.length]?) = some column.name := by
        simp [whole]
      have resolved : DelimitedFormat.resolve ⟨true, namesByHeader, ignoresUnmapped, delimiter,
          columns.map NamedColumn.delimited⟩ earlier.length (some column.name) =
            .ok (some column.conversion) := by
        rw [DelimitedFormat.resolve, DelimitedFormat.column?, Option.bind_some,
          byHeader?_columns distinct member]
        simp [conversionOf_delimited]
      have following := ih (earlier ++ [column]) (by simp [whole]) (base.set column.name value)
      rw [List.length_append, List.length_singleton] at following
      rw [List.map_cons, DelimitedFormat.readCells, header, resolved, List.map_cons,
        List.foldl_cons, held]
      simp only [Outcome.ok_bind, NamedColumn.conversion, fitting.convert_display]
      exact following

theorem restrict_columns {record : Record} (fits : ∀ column ∈ columns, column.Fits record) :
    record.restrict (columns.map NamedColumn.name) =
      .ofPairs (columns.map fun column => (column.name, record.getOrNull column.name)) := by
  have pairs : (columns.map NamedColumn.name).filterMap
      (fun name => (record.get? name).map fun value => (name, value)) =
        columns.map fun column => (column.name, record.getOrNull column.name) := by
    induction columns with
    | nil => rfl
    | cons column rest ih =>
        obtain ⟨value, found, _⟩ := fits column (List.mem_cons_self ..)
        rw [List.map_cons, List.filterMap_cons, found, List.map_cons,
          ih fun later member => fits later (List.mem_cons_of_mem _ member), Record.getOrNull,
          found]
        rfl
  rw [Record.restrict, pairs]

def cellsOf (columns : List NamedColumn) (record : Record) : List String :=
  columns.map fun column => (record.getOrNull column.name).display

theorem readRow_columns (distinct : (columns.map NamedColumn.name).Nodup) {record : Record}
    (fits : ∀ column ∈ columns, column.Fits record) :
    DelimitedFormat.readRow ⟨true, namesByHeader, ignoresUnmapped, delimiter,
        columns.map NamedColumn.delimited⟩ (some (columns.map NamedColumn.name))
        (cellsOf columns record) = .ok (record.restrict (columns.map NamedColumn.name)) := by
  rw [restrict_columns fits]
  exact readCells_columns distinct fits [] columns rfl .empty

/-! ## All rows -/

theorem readRows_columns (distinct : (columns.map NamedColumn.name).Nodup) (file : String)
    {records : List Record} (fits : ∀ record ∈ records, ∀ column ∈ columns, column.Fits record)
    {found : List (Except DelimitedFault Rows.Row)}
    (rows : List.Forall₂ Rows.HasCells found (records.map (cellsOf columns))) :
    DelimitedFormat.readRows ⟨true, namesByHeader, ignoresUnmapped, delimiter,
        columns.map NamedColumn.delimited⟩ file (some (columns.map NamedColumn.name))
        (some (columns.map NamedColumn.name).length) found =
      .ok (records.map (.restrict (columns.map NamedColumn.name))) := by
  induction records generalizing found with
  | nil =>
      cases rows
      rfl
  | cons record rest ih =>
      obtain ⟨first, others, ⟨position, rfl⟩, rowsRest, rfl⟩ := List.forall₂_cons_right_iff.1 rows
      have following := ih (fun later member => fits later (List.mem_cons_of_mem _ member)) rowsRest
      have width : ¬ (cellsOf columns record).length ≠ (columns.map NamedColumn.name).length := by
        simp [cellsOf]
      rw [DelimitedFormat.readRows]
      simp only [Option.getD_some, if_neg width,
        readRow_columns distinct (fits record (List.mem_cons_self ..)), following, Outcome.ok_bind,
        List.map_cons]

theorem readFile_columns (distinct : (columns.map NamedColumn.name).Nodup) (nonempty : columns ≠ [])
    (separates : Rows.Separates delimiter) (file : String) {records : List Record}
    (fits : ∀ record ∈ records, ∀ column ∈ columns, column.Fits record)
    (unmarked : (Rows.rowsBytes delimiter
      (columns.map NamedColumn.name :: records.map (cellsOf columns))).take 3 ≠ Rows.orderMark) :
    DelimitedFormat.readFile ⟨true, namesByHeader, ignoresUnmapped, delimiter,
        columns.map NamedColumn.delimited⟩ file
        ⟨Rows.rowsBytes delimiter (columns.map NamedColumn.name :: records.map (cellsOf columns)),
          none⟩ = .ok (records.map (.restrict (columns.map NamedColumn.name))) := by
  have wide : ∀ row ∈ columns.map NamedColumn.name :: records.map (cellsOf columns), row ≠ [] := by
    intro row member
    rcases List.mem_cons.1 member with rfl | member
    · simpa using nonempty
    · obtain ⟨record, _, rfl⟩ := List.mem_map.1 member
      simpa [cellsOf] using nonempty
  have rows := Rows.read_rowsBytes separates wide unmarked
  obtain ⟨header, others, ⟨position, rfl⟩, rowsRest, found⟩ := List.forall₂_cons_right_iff.1 rows
  rw [DelimitedFormat.readFile]
  simp only [if_true, found]
  exact readRows_columns distinct file fits rowsRest

end Columns

/-! ## The round trip -/

/-- What the writer of delimited text publishes, the reader turns into the records that were
written, in order, each with the fields of the columns. -/
theorem write_read_table {columns : List NamedColumn} (nonempty : columns ≠ [])
    (distinct : (columns.map NamedColumn.name).Nodup)
    (unmarked : ∀ column, columns.head? = some column →
      column.name.toList.head? ≠ some '\uFEFF')
    {delimiter : Char} (delimits : Delimits delimiter) {writing reading : Settings}
    (writes : WritesColumns writing delimiter (columns.map NamedColumn.name))
    (reads : ReadsColumns reading delimiter columns) {records : List Record}
    (fits : ∀ record ∈ records, ∀ column ∈ columns, column.Fits record) (disk other : Disk) :
    let written := generateDelimited.execute writing (.onMemory (records.map .record) disk)
    written.1 = .ok () ∧ ∃ file, written.2.output.files defaultPort = [file] ∧
      let parsed := parseDelimited.execute reading
        (.onMemory [.file (.ofBytes file.name file.bytes)] other)
      parsed.1 = .ok () ∧ parsed.2.output.records defaultPort =
        records.map (.restrict (columns.map NamedColumn.name)) := by
  obtain ⟨filename, policy, settled⟩ := writes.settled delimits
  obtain ⟨namesByHeader, ignoresUnmapped, policy', settled'⟩ := reads.settled delimits
  obtain ⟨succeeds, files⟩ := DelimitedLayout.publishes ⟨true, columns.map NamedColumn.name,
    UInt8.ofNat delimiter.toNat, filename⟩ policy records disk
  have cells : records.map (DelimitedLayout.cells ⟨true, columns.map NamedColumn.name,
      UInt8.ofNat delimiter.toNat, filename⟩) = records.map (cellsOf columns) := by
    refine List.map_congr_left fun record _ => ?_
    simp [DelimitedLayout.cells, cellsOf, Function.comp_def]
  have header : DelimitedLayout.headerRows ⟨true, columns.map NamedColumn.name,
      UInt8.ofNat delimiter.toNat, filename⟩ = [columns.map NamedColumn.name] := rfl
  rw [cells, header, List.singleton_append] at files
  have plain : (Rows.rowsBytes (UInt8.ofNat delimiter.toNat)
      (columns.map NamedColumn.name :: records.map (cellsOf columns))).take 3 ≠ Rows.orderMark := by
    obtain ⟨first, rest, rfl⟩ := List.exists_cons_of_ne_nil nonempty
    have ascii : (UInt8.ofNat delimiter.toNat).toNat < 0x80 := by
      rw [delimits.byte]
      exact delimits.ascii
    exact Rows.rowBytes_unmarked ascii first.name (unmarked first rfl) _ _
  dsimp only
  rw [BuiltinFunction.execute, settled, BuiltinFunction.execute, settled']
  exact ⟨succeeds, _, files, puts_table_out policy'
    (readFile_columns distinct nonempty delimits.separates filename fits plain) other⟩

/-- Cells with a delimiter, quotes, line ends and nothing at all, and the least integer. -/
theorem write_read_table_quoted :
    let writing : Settings := [("delimiter", .text ";"), ("filename", .text "out.csv"),
      ("header", .text "true"), ("headerValue", .list [.text "name", .text "count"])]
    let column (name datatype : String) : Json := .object
      [("columnName", .text name), ("datatype", .text datatype), ("fieldName", .text name)]
    let reading : Settings :=
      [("columns", .list [column "name" "string", column "count" "integer"]),
      ("delimiter", .text ";"), ("hasHeaderRow", .bool true)]
    let records := [Record.ofPairs [("name", .text "a;\"b\"\r\n"), ("count", .int Int64.minValue)],
      Record.ofPairs [("name", .text ""), ("count", .int 7)]]
    let written := generateDelimited.execute writing (.onMemory (records.map .record) .empty)
    written.1 = .ok () ∧ ∃ file, written.2.output.files defaultPort = [file] ∧
      (parseDelimited.execute reading (.onMemory [.file (.ofBytes file.name file.bytes)]
        .empty)).2.output.records defaultPort = records := by
  intro writing column reading records
  have delimits : Delimits ';' := by constructor <;> decide
  let columns : List NamedColumn := [⟨"name", .text⟩, ⟨"count", .integer⟩]
  have writes : WritesColumns writing ';' (columns.map NamedColumn.name) :=
    ⟨rfl, rfl, rfl, ⟨_, rfl⟩, ⟨_, rfl⟩⟩
  have reads : ReadsColumns reading ';' columns :=
    ⟨rfl, rfl, rfl, ⟨_, rfl⟩, ⟨_, rfl⟩, ⟨_, rfl⟩⟩
  have fits : ∀ record ∈ records, ∀ column ∈ columns, column.Fits record := by
    intro record isRecord column isColumn
    simp only [records, columns, List.mem_cons, List.not_mem_nil, or_false] at isRecord isColumn
    rcases isRecord with rfl | rfl <;> rcases isColumn with rfl | rfl
    · exact ⟨_, rfl, .text _⟩
    · exact ⟨_, rfl, .integer _⟩
    · exact ⟨_, rfl, .text _⟩
    · exact ⟨_, rfl, .integer _⟩
  have unmarked : ∀ column, columns.head? = some column →
      column.name.toList.head? ≠ some '\uFEFF' := by
    intro column first
    obtain rfl := Option.some.inj first
    decide
  obtain ⟨succeeds, file, files, _, read⟩ := write_read_table (by simp [columns]) (by decide)
    unmarked delimits writes reads fits .empty .empty
  exact ⟨succeeds, file, files, read⟩

end Sluice
