import Sluice.Proofs.Table.Mark
import Sluice.Proofs.Table.RoundTrip

/-!
# Tables without a header

Texts that are written to a delimited file without a header are found again by the places of their
columns.  The one exception is the very first cell: where it begins with a mark of byte order and
nothing in it asks for quotes, the mark is lost.
-/

set_option autoImplicit false

namespace Sluice

/-! ## Settings -/

structure WritesBare (settings : Settings) (delimiter : Char) (names : List String) : Prop where
  header : DelimitedLayout.asksHeader (settings.get? "header") = false
  names : settings.get? "headerValue" = some (.list (names.map Json.text))
  delimiter : settings.get? "delimiter" = some (.text (String.ofList [delimiter]))
  filename : ∃ filename, settings.get? "filename" = some (.text filename)
  policy : ∃ policy, settings.entryPolicy = .ok policy

def placedSettings (column : String × Nat) : Settings :=
  [("datatype", .text "string"), ("fieldName", .text column.1), ("index", .int column.2)]

def placedColumn (column : String × Nat) : DelimitedColumn :=
  ⟨none, some column.2, ⟨.text, "", column.1⟩⟩

structure ReadsPlaces (settings : Settings) (delimiter : Char) (names : List String) : Prop where
  header : settings.optionalBool "hasHeaderRow" false = .ok false
  columns : settings.get? "columns" =
    some (.list (names.zipIdx.map fun column => .object (placedSettings column)))
  places : names.length ≤ Settings.sizeMax
  delimiter : settings.get? "delimiter" = some (.text (String.ofList [delimiter]))
  namesByHeader : ∃ flag, settings.optionalBool "useHeaderColumnNamesAsFieldNames" false = .ok flag
  ignoresUnmapped : ∃ flag, settings.optionalBool "ignoreUnmappedColumns" false = .ok flag
  policy : ∃ policy, settings.entryPolicy = .ok policy

theorem WritesBare.settled {settings : Settings} {delimiter : Char} {names : List String}
    (writes : WritesBare settings delimiter names) (delimits : Delimits delimiter) :
    ∃ filename policy, generateDelimited.settle settings = .ok (DelimitedLayout.stage
      ⟨false, names, UInt8.ofNat delimiter.toNat, filename⟩ policy) := by
  obtain ⟨filename, called⟩ := writes.filename
  obtain ⟨policy, known⟩ := writes.policy
  have settled := writer_settled delimits writes.names writes.delimiter called known
  rw [writes.header] at settled
  exact ⟨filename, policy, settled⟩

theorem placedColumn_ofSettings {column : String × Nat} (named : column.1 ≠ "")
    (place : column.2 ≤ Settings.sizeMax) (namesByHeader : Bool) :
    DelimitedColumn.ofSettings namesByHeader (placedSettings column) =
      .ok (placedColumn column) := by
  have unnamed : Settings.optionalText (placedSettings column) "columnName" = .ok none := rfl
  have isSize : (column.2 : Int) ≤ Settings.sizeMax := Int.ofNat_le.2 place
  have placed : Settings.optionalSize (placedSettings column) "index" = .ok (some column.2) := by
    show (Settings.sizeOf "index" (.int column.2)).map some = _
    rw [Settings.sizeOf, if_pos ⟨Int.natCast_nonneg _, isSize⟩]
    rfl
  have datatype : Settings.requiredText (placedSettings column) Datatype.datatypeKey =
    .ok "string" := rfl
  have unformatted : Settings.optionalText (placedSettings column) "format" = .ok none := rfl
  have field : Settings.requiredText (placedSettings column) Conversion.fieldKey =
    .ok column.1 := rfl
  have fieldText : Settings.optionalText (placedSettings column) Conversion.fieldKey =
    .ok (some column.1) := rfl
  have converts : Conversion.ofSettings (placedSettings column) namesByHeader =
      .ok ⟨.text, "", column.1⟩ := by
    cases namesByHeader <;>
      simp [Conversion.ofSettings, datatype, unformatted, field, fieldText, Datatype.ofName,
        Except.map]
  simp [DelimitedColumn.ofSettings, unnamed, placed, converts, placedColumn, named]

theorem readItems_places (namesByHeader : Bool) (index place : Nat) {names : List String}
    (named : ∀ name ∈ names, name ≠ "") (places : place + names.length ≤ Settings.sizeMax) :
    Settings.readItems "columns" (DelimitedColumn.ofSettings namesByHeader) index
        ((names.zipIdx place).map fun column => .object (placedSettings column)) =
      .ok ((names.zipIdx place).map placedColumn) := by
  induction names generalizing index place with
  | nil => rfl
  | cons name rest ih =>
      rw [List.length_cons] at places
      have following := ih (index + 1) (place + 1)
        (fun other member => named other (List.mem_cons_of_mem _ member)) (by omega)
      have first : DelimitedColumn.ofSettings namesByHeader (placedSettings (name, place)) =
          .ok (placedColumn (name, place)) :=
        placedColumn_ofSettings (named name (List.mem_cons_self ..)) (by dsimp only; omega) _
      rw [List.zipIdx_cons, List.map_cons, Settings.readItems, following]
      simp [Settings.ofItem, first, Except.mapError]

theorem ReadsPlaces.settled {settings : Settings} {delimiter : Char} {names : List String}
    (reads : ReadsPlaces settings delimiter names) (delimits : Delimits delimiter)
    (named : ∀ name ∈ names, name ≠ "") :
    ∃ namesByHeader ignoresUnmapped policy, parseDelimited.settle settings =
      .ok (.handling policy (Run.handleTable (DelimitedFormat.readFile
        ⟨false, namesByHeader, ignoresUnmapped, UInt8.ofNat delimiter.toNat,
          names.zipIdx.map placedColumn⟩))) := by
  obtain ⟨namesByHeader, byHeader⟩ := reads.namesByHeader
  obtain ⟨ignoresUnmapped, ignores⟩ := reads.ignoresUnmapped
  obtain ⟨policy, known⟩ := reads.policy
  have places : 0 + names.length ≤ Settings.sizeMax := by
    rw [Nat.zero_add]
    exact reads.places
  exact ⟨namesByHeader, ignoresUnmapped, policy, reader_settled delimits reads.header byHeader
    ignores reads.columns (readItems_places namesByHeader 0 0 named places) reads.delimiter known⟩

/-! ## One row -/

def Record.ofTexts (names texts : List String) : Record :=
  .ofPairs (names.zip (texts.map Value.text))

section Rows

variable {namesByHeader ignoresUnmapped : Bool} {delimiter : UInt8} {names : List String}

theorem find?_placedColumn (earlier : List String) (name : String) (rest : List String)
    (place : Nat) :
    (((earlier ++ name :: rest).zipIdx place).map placedColumn).find?
        (fun column => column.index = some (place + earlier.length)) =
      some (placedColumn (name, place + earlier.length)) := by
  induction earlier generalizing place with
  | nil => simp [placedColumn]
  | cons first others ih =>
      have differs : ¬ (placedColumn (first, place)).index =
          some (place + (first :: others).length) := by
        simp [placedColumn]
      have following := ih (place + 1)
      rw [Nat.add_right_comm, Nat.add_assoc place] at following
      rw [List.cons_append, List.zipIdx_cons, List.map_cons,
        List.find?_cons_of_neg (by simpa using differs)]
      exact following

/-- Reading the texts of a row sets the fields of the names, one after the other. -/
theorem readCells_places {texts : List String} (earlier rest : List String)
    (whole : names = earlier ++ rest) (even : texts.length = rest.length) (base : Record) :
    DelimitedFormat.readCells ⟨false, namesByHeader, ignoresUnmapped, delimiter,
        names.zipIdx.map placedColumn⟩ none earlier.length texts base =
      .ok ((rest.zip (texts.map Value.text)).foldl (fun row pair => row.set pair.1 pair.2)
        base) := by
  induction texts generalizing earlier rest base with
  | nil => simp [DelimitedFormat.readCells]
  | cons text others ih =>
      cases rest with
      | nil => cases even
      | cons name later =>
          have column := find?_placedColumn earlier name later 0
          rw [Nat.zero_add, ← whole] at column
          have conversion :
              DelimitedFormat.conversionOf (placedColumn (name, earlier.length)) none =
                ⟨.text, "", name⟩ := by
            rw [DelimitedFormat.conversionOf]
            by_cases unnamed : name = ""
            · simp [placedColumn, unnamed]
            · simp [placedColumn, unnamed]
          have resolved : DelimitedFormat.resolve ⟨false, namesByHeader, ignoresUnmapped, delimiter,
              names.zipIdx.map placedColumn⟩ earlier.length none =
                .ok (some ⟨.text, "", name⟩) := by
            rw [DelimitedFormat.resolve, DelimitedFormat.column?, Option.bind_none, Option.none_or,
              DelimitedFormat.byIndex?, column, ← conversion]
          have following := ih (earlier ++ [name]) later (by simp [whole])
            (Nat.succ.inj even) (base.set name (.text text))
          rw [List.length_append, List.length_singleton] at following
          rw [DelimitedFormat.readCells, Option.bind_none, resolved]
          exact following

theorem readRow_places {texts : List String} (even : texts.length = names.length) :
    DelimitedFormat.readRow ⟨false, namesByHeader, ignoresUnmapped, delimiter,
        names.zipIdx.map placedColumn⟩ none texts = .ok (.ofTexts names texts) :=
  readCells_places [] names rfl even .empty

def Record.HasTexts (names : List String) (record : Record) : Prop :=
  ∀ name ∈ names, ∃ text, record.get? name = some (.text text)

def textsOf (names : List String) (record : Record) : List String :=
  names.map fun name => (record.getOrNull name).display

theorem restrict_texts {record : Record} (texts : record.HasTexts names) :
    record.restrict names = .ofTexts names (textsOf names record) := by
  have pairs : names.filterMap (fun name => (record.get? name).map fun value => (name, value)) =
      names.zip ((textsOf names record).map Value.text) := by
    induction names with
    | nil => rfl
    | cons name rest ih =>
        obtain ⟨text, found⟩ := texts name (List.mem_cons_self ..)
        have following := ih fun other member => texts other (List.mem_cons_of_mem _ member)
        rw [List.filterMap_cons, found, textsOf, List.map_cons, List.map_cons, List.zip_cons_cons,
          Record.getOrNull, found, ← textsOf, ← following]
        rfl
  rw [Record.restrict, Record.ofTexts, pairs]

/-! ## All rows -/

theorem rows_of_hasCells {found : List (Except DelimitedFault Rows.Row)}
    {cells : List (List String)} (has : List.Forall₂ Rows.HasCells found cells) :
    ∃ rows : List Rows.Row, found = rows.map .ok ∧ rows.map Rows.Row.cells = cells := by
  induction has with
  | nil => exact ⟨[], rfl, rfl⟩
  | cons first _ ih =>
      obtain ⟨position, rfl⟩ := first
      obtain ⟨rows, rfl, rfl⟩ := ih
      exact ⟨⟨position, _⟩ :: rows, rfl, rfl⟩

theorem readFile_places (file : String) {bytes : Bytes} {found : List (List String)}
    (has : List.Forall₂ Rows.HasCells (Rows.read delimiter ⟨bytes, none⟩) found)
    (even : ∀ texts ∈ found, texts.length = names.length) :
    DelimitedFormat.readFile ⟨false, namesByHeader, ignoresUnmapped, delimiter,
        names.zipIdx.map placedColumn⟩ file ⟨bytes, none⟩ =
      .ok (found.map (.ofTexts names)) := by
  obtain ⟨rows, delivers, rfl⟩ := rows_of_hasCells has
  have evenRows : ∀ row ∈ rows, row.cells.length = names.length :=
    fun row member => even row.cells (List.mem_map_of_mem member)
  refine DelimitedFormat.readFile_eq_ok.2 (.rows names.length delivers (.bare rfl rows) evenRows ?_)
  rw [List.map_map, List.forall₂_map_right_iff, List.forall₂_same]
  exact fun row member => readRow_places (evenRows row member)

/-! ## The first cell -/

/-- The first text of all begins with a mark of byte order, and nothing in it asks for quotes. -/
def BeginsMarked (delimiter : Char) (names : List String) (records : List Record) : Prop :=
  ∃ record name text, records.head? = some record ∧ names.head? = some name ∧
    record.get? name = some (.text text) ∧ text.toList.head? = some '\uFEFF' ∧
    ∀ c ∈ [delimiter, '"', '\r', '\n'], c ∉ text.toList

end Rows

theorem needsQuotes_iff {delimiter : Char} (delimits : Delimits delimiter) (text : List Char) :
    DelimitedLayout.needsQuotes (UInt8.ofNat delimiter.toNat) (Utf8.encode text) = false ↔
      ∀ c ∈ [delimiter, '"', '\r', '\n'], c ∉ text := by
  have found : ∀ c ∈ [delimiter, '"', '\r', '\n'],
      UInt8.ofNat c.toNat ∈ Utf8.encode text ↔ c ∈ text := by
    intro c member
    refine Utf8.mem_encode_ascii ?_ text
    simp only [List.mem_cons, List.not_mem_nil, or_false] at member
    rcases member with rfl | rfl | rfl | rfl
    · exact delimits.ascii
    · decide
    · decide
    · decide
  constructor
  · intro bare c member inText
    have plain := List.any_eq_false.1 bare _ ((found c member).2 inText)
    simp only [List.mem_cons, List.not_mem_nil, or_false] at member
    rcases member with rfl | rfl | rfl | rfl <;> simp [Rows.quoteByte, Rows.isLineEnd] at plain
  · intro plain
    rw [DelimitedLayout.needsQuotes, List.any_eq_false]
    intro b member special
    have isSpecial : ∃ c ∈ [delimiter, '"', '\r', '\n'], b = UInt8.ofNat c.toNat := by
      simp only [Bool.or_eq_true, decide_eq_true_eq, Rows.isLineEnd] at special
      rcases special with (rfl | rfl) | rfl | rfl
      · exact ⟨delimiter, by simp, rfl⟩
      · exact ⟨'"', by simp, rfl⟩
      · exact ⟨'\n', by simp, rfl⟩
      · exact ⟨'\r', by simp, rfl⟩
    obtain ⟨c, listed, rfl⟩ := isSpecial
    exact plain c listed ((found c listed).1 member)

theorem beginsMarked_iff {delimiter : Char} (delimits : Delimits delimiter) {name : String}
    {names : List String} {record : Record} (texts : record.HasTexts (name :: names))
    (others : List Record) :
    BeginsMarked delimiter (name :: names) (record :: others) ↔
      ∃ text, Rows.BareMark (UInt8.ofNat delimiter.toNat) (record.getOrNull name).display text := by
  obtain ⟨cell, found⟩ := texts name (List.mem_cons_self ..)
  have held : (record.getOrNull name).display = cell := by
    rw [Record.getOrNull, found]
    rfl
  rw [held]
  constructor
  · rintro ⟨_, _, text, first, same, foundText, begins, plain⟩
    obtain rfl := Option.some.inj first
    obtain rfl := Option.some.inj same
    obtain rfl : cell = text := by simpa using found.symm.trans foundText
    obtain ⟨rest, chars⟩ := List.head?_eq_some_iff.1 begins
    exact ⟨rest, chars, (needsQuotes_iff delimits _).2 plain⟩
  · rintro ⟨rest, chars, bare⟩
    refine ⟨record, name, cell, rfl, rfl, found, ?_, (needsQuotes_iff delimits _).1 bare⟩
    rw [chars]
    rfl

theorem ofTexts_first {name text : String} {names texts : List String}
    (distinct : (name :: names).Nodup) (even : texts.length = names.length) :
    (Record.ofTexts (name :: names) (text :: texts)).get? name = some (.text text) := by
  have keys : ((name :: names).zip ((text :: texts).map Value.text)).map Prod.fst =
      name :: names := by
    rw [List.map_fst_zip]
    simp [even]
  rw [Record.get?, Record.ofTexts, Record.ofPairs_fields _ (keys.symm ▸ distinct)]
  simp

/-- What is found is what was written, unless the first cell begins with a bare mark. -/
theorem found_eq_iff {delimiter : Char} (delimits : Delimits delimiter) {name : String}
    {names : List String} (distinct : (name :: names).Nodup) {records : List Record}
    (texts : ∀ record ∈ records, record.HasTexts (name :: names)) {found : List (List String)}
    (back : Rows.ReadsBack (UInt8.ofNat delimiter.toNat)
      (records.map (textsOf (name :: names))) found) :
    found.map (Record.ofTexts (name :: names)) = records.map (.restrict (name :: names)) ↔
      ¬ BeginsMarked delimiter (name :: names) records := by
  have restricted : records.map (Record.restrict (name :: names)) =
      (records.map (textsOf (name :: names))).map (.ofTexts (name :: names)) := by
    rw [List.map_map]
    exact List.map_congr_left fun record member => restrict_texts (texts record member)
  rw [restricted]
  cases records with
  | nil =>
      cases back
      refine ⟨fun _ marked => ?_, fun _ => rfl⟩
      obtain ⟨record, _, _, first, _⟩ := marked
      cases first
  | cons record others =>
      have row : textsOf (name :: names) record =
        (record.getOrNull name).display :: textsOf names record := rfl
      have even : (textsOf names record).length = names.length := List.length_map ..
      rw [beginsMarked_iff delimits (texts record (List.mem_cons_self ..))]
      rw [List.map_cons, row] at back ⊢
      generalize textsOf names record = cells at back even ⊢
      cases back with
      | whole unmarked => exact ⟨fun _ ⟨text, mark⟩ => unmarked _ _ _ text rfl mark, fun _ => rfl⟩
      | @cut _ text mark _ _ _ =>
          refine ⟨fun same => ?_, fun unmarked => (unmarked ⟨text, mark⟩).elim⟩
          have heads := congrArg (Record.get? · name) (List.cons.inj same).1
          rw [ofTexts_first distinct even, ofTexts_first distinct even] at heads
          have same : String.ofList text = (record.getOrNull name).display := by simpa using heads
          have chars := mark.chars
          rw [← same, String.toList_ofList] at chars
          exact (List.cons_ne_self _ _ chars.symm).elim
      | gone mark _ =>
          refine ⟨fun same => ?_, fun unmarked => (unmarked ⟨[], mark⟩).elim⟩
          have lengths := congrArg List.length same
          simp at lengths

/-! ## The round trip -/

/-- What is written without a header is found again by the places of the columns, in order and with
every text as it was, exactly if the first text of all does not begin with a bare mark of byte
order. -/
theorem write_read_places {names : List String} (nonempty : names ≠ []) (distinct : names.Nodup)
    (named : ∀ name ∈ names, name ≠ "") {delimiter : Char} (delimits : Delimits delimiter)
    {writing reading : Settings} (writes : WritesBare writing delimiter names)
    (reads : ReadsPlaces reading delimiter names) {records : List Record}
    (texts : ∀ record ∈ records, record.HasTexts names) (disk other : Disk) :
    let written := generateDelimited.execute writing (.onMemory (records.map .record) disk)
    written.1 = .ok () ∧ ∃ file, written.2.output.files defaultPort = [file] ∧
      let parsed := parseDelimited.execute reading
        (.onMemory [.file (.ofBytes file.name file.bytes)] other)
      parsed.1 = .ok () ∧
        (parsed.2.output.records defaultPort = records.map (.restrict names) ↔
          ¬ BeginsMarked delimiter names records) := by
  obtain ⟨filename, policy, settled⟩ := writes.settled delimits
  obtain ⟨namesByHeader, ignoresUnmapped, policy', settled'⟩ := reads.settled delimits named
  obtain ⟨succeeds, files⟩ := DelimitedLayout.publishes ⟨false, names,
    UInt8.ofNat delimiter.toNat, filename⟩ policy records disk
  have cells : records.map (DelimitedLayout.cells ⟨false, names, UInt8.ofNat delimiter.toNat,
      filename⟩) = records.map (textsOf names) := rfl
  have noHeader : DelimitedLayout.headerRows ⟨false, names, UInt8.ofNat delimiter.toNat,
      filename⟩ = [] := rfl
  rw [cells, noHeader, List.nil_append] at files
  have even : ∀ row ∈ records.map (textsOf names), row.length = names.length := by
    intro row member
    obtain ⟨record, _, rfl⟩ := List.mem_map.1 member
    exact List.length_map ..
  have wide : ∀ row ∈ records.map (textsOf names), row ≠ [] := by
    intro row member none
    have width := even row member
    rw [none] at width
    exact nonempty (List.length_eq_zero_iff.1 width.symm)
  have ascii : (UInt8.ofNat delimiter.toNat).toNat < 0x80 := by
    rw [delimits.byte]
    exact delimits.ascii
  obtain ⟨found, back, has⟩ := Rows.read_written delimits.separates ascii wide
  obtain ⟨parses, out⟩ := puts_table_out policy'
    (readFile_places filename has (back.even even)) other
  obtain ⟨name, rest, rfl⟩ := List.exists_cons_of_ne_nil nonempty
  have exactly := found_eq_iff delimits distinct texts back
  rw [← out] at exactly
  dsimp only
  rw [BuiltinFunction.execute, settled, BuiltinFunction.execute, settled']
  exact ⟨succeeds, _, files, parses, exactly⟩

/-- A mark in front of a text that is quoted, one within a text and one below the first row. -/
theorem write_read_places_quoted :
    let writing : Settings := [("delimiter", .text ";"), ("filename", .text "out.csv"),
      ("headerValue", .list [.text "name"])]
    let reading : Settings :=
      [("columns", .list [.object (placedSettings ("name", 0))]), ("delimiter", .text ";")]
    let records := [Record.ofPairs [("name", .text "\uFEFFa;\uFEFF\"b\"")],
      Record.ofPairs [("name", .text "\uFEFF")]]
    let written := generateDelimited.execute writing (.onMemory (records.map .record) .empty)
    ∃ file, written.2.output.files defaultPort = [file] ∧
      (parseDelimited.execute reading (.onMemory [.file (.ofBytes file.name file.bytes)]
        .empty)).2.output.records defaultPort = records := by
  intro writing reading records
  have delimits : Delimits ';' := by constructor <;> decide
  have writes : WritesBare writing ';' ["name"] := ⟨rfl, rfl, rfl, ⟨_, rfl⟩, ⟨_, rfl⟩⟩
  have reads : ReadsPlaces reading ';' ["name"] :=
    ⟨rfl, rfl, by decide, rfl, ⟨_, rfl⟩, ⟨_, rfl⟩, ⟨_, rfl⟩⟩
  have texts : ∀ record ∈ records, record.HasTexts ["name"] := by
    intro record isRecord name isName
    obtain rfl := List.mem_singleton.1 isName
    simp only [records, List.mem_cons, List.not_mem_nil, or_false] at isRecord
    rcases isRecord with rfl | rfl
    · exact ⟨_, rfl⟩
    · exact ⟨_, rfl⟩
  have unmarked : ¬ BeginsMarked ';' ["name"] records := by
    rintro ⟨record, name, text, first, same, found, _, plain⟩
    obtain rfl := Option.some.inj first
    obtain rfl := Option.some.inj same
    obtain rfl : "\uFEFFa;\uFEFF\"b\"" = text := by simpa using Option.some.inj found
    exact plain ';' (by simp) (by decide)
  obtain ⟨_, file, files, _, exactly⟩ := write_read_places (by simp) (by simp) (by simp) delimits
    writes reads texts .empty .empty
  exact ⟨file, files, exactly.2 unmarked⟩

/-- A text that is nothing but a mark and a letter comes back without the mark. -/
theorem write_read_places_marked :
    let writing : Settings := [("delimiter", .text ","), ("filename", .text "out.csv"),
      ("headerValue", .list [.text "name"])]
    let reading : Settings :=
      [("columns", .list [.object (placedSettings ("name", 0))]), ("delimiter", .text ",")]
    let record := Record.ofPairs [("name", .text "\uFEFFx")]
    WritesBare writing ',' ["name"] ∧ ReadsPlaces reading ',' ["name"] ∧
      record.HasTexts ["name"] ∧ record.restrict ["name"] = record ∧
      let written := generateDelimited.execute writing (.onMemory [.record record] .empty)
      written.1 = .ok () ∧ ∃ file, written.2.output.files defaultPort = [file] ∧
        let parsed := parseDelimited.execute reading
          (.onMemory [.file (.ofBytes file.name file.bytes)] .empty)
        parsed.1 = .ok () ∧
          parsed.2.output.records defaultPort = [.ofPairs [("name", .text "x")]] ∧
          parsed.2.output.records defaultPort ≠ [record] := by
  intro writing reading record
  have texts : record.HasTexts ["name"] := by
    intro name isName
    obtain rfl := List.mem_singleton.1 isName
    exact ⟨_, rfl⟩
  have writes : WritesBare writing ',' ["name"] := ⟨rfl, rfl, rfl, ⟨_, rfl⟩, ⟨_, rfl⟩⟩
  have reads : ReadsPlaces reading ',' ["name"] :=
    ⟨rfl, rfl, by decide, rfl, ⟨_, rfl⟩, ⟨_, rfl⟩, ⟨_, rfl⟩⟩
  let bytes : Bytes := [0xEF, 0xBB, 0xBF, 0x78, 10]
  have files : (generateDelimited.execute writing (.onMemory [.record record]
      .empty)).2.output.files defaultPort = [⟨"out.csv", bytes⟩] := by decide +kernel
  have found : (parseDelimited.execute reading (.onMemory [.file (.ofBytes "out.csv" bytes)]
      .empty)).2.output.records defaultPort = [.ofPairs [("name", .text "x")]] := by
    decide +kernel
  have differs : [Record.ofPairs [("name", .text "x")]] ≠ [record] := by decide +kernel
  refine ⟨writes, reads, texts, rfl, by decide +kernel, _, files, by decide +kernel, found, ?_⟩
  rw [found]
  exact differs

end Sluice
