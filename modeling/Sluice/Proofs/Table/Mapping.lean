import Mathlib.Data.List.Forall2
import Sluice.Proofs.Table.Cells
import Sluice.Proofs.Table.Resolution

/-!
# How cells are mapped

The rules that give each cell of a row its column, its conversion and the name of its field, said on
their own.  Reading a row does just what they say: it succeeds if every cell is skipped or mapped
and converted, what stands last under a name is kept, and else the first cell at fault decides.
-/

set_option autoImplicit false

namespace Sluice

/-! ## Accepted columns -/

/-- Each item of a list is read by itself. -/
theorem readItems_forall₂ {α : Type} {key : String} {read : Settings → Outcome α} {index : Nat}
    {items : List Json} {all : List α} (reads : Settings.readItems key read index items = .ok all) :
    List.Forall₂ (fun item value => ∃ members, item = .object members ∧ read members = .ok value)
      items all := by
  induction items generalizing index all with
  | nil =>
      obtain rfl := Except.ok.inj reads
      exact .nil
  | cons first rest ih =>
      obtain ⟨members, isItem, reads⟩ := Outcome.bind_eq_ok.1 reads
      obtain ⟨value, readsFirst, reads⟩ := Outcome.bind_eq_ok.1 reads
      obtain ⟨others, readsRest, reads⟩ := Outcome.bind_eq_ok.1 reads
      obtain rfl := Except.ok.inj reads
      refine .cons ⟨members, ?_, ?_⟩ (ih readsRest)
      · cases first <;> cases isItem
        rfl
      · cases reading : read members with
        | error failure =>
            rw [reading] at readsFirst
            cases readsFirst
        | ok result =>
            rw [reading] at readsFirst
            exact congrArg _ (Except.ok.inj readsFirst)

/-- Whatever is read of a list is read of the settings of one of its items. -/
theorem exists_settings_of_mem {α : Type} {read : Settings → Outcome α} {items : List Json}
    {all : List α}
    (each : List.Forall₂ (fun item value => ∃ members, item = .object members ∧
      read members = .ok value) items all) {value : α} (member : value ∈ all) :
    ∃ members, read members = .ok value := by
  induction each with
  | nil => cases member
  | cons first _ ih =>
      rcases List.mem_cons.1 member with rfl | later
      · obtain ⟨members, _, reads⟩ := first
        exact ⟨members, reads⟩
      · exact ih later

/-- An accepted column that leaves its field empty has a name. -/
theorem DelimitedColumn.named_of_accepted {namesByHeader : Bool} {settings : Settings}
    {column : DelimitedColumn}
    (accepted : DelimitedColumn.ofSettings namesByHeader settings = .ok column)
    (empty : column.conversion.field = "") : ∃ name, column.name = some name := by
  obtain ⟨name, _, accepted⟩ := Outcome.bind_eq_ok.1 accepted
  obtain ⟨index, _, accepted⟩ := Outcome.bind_eq_ok.1 accepted
  obtain ⟨conversion, _, accepted⟩ := Outcome.bind_eq_ok.1 accepted
  split at accepted
  · cases accepted
  · next named =>
      obtain rfl := Except.ok.inj accepted
      cases name with
      | none => exact (named ⟨String.isEmpty_iff.2 empty, rfl⟩).elim
      | some name => exact ⟨name, rfl⟩

namespace DelimitedFormat

variable {format : DelimitedFormat} {position : Nat} {header : Option String}

/-! ## The rules -/

structure FirstColumn (format : DelimitedFormat) (property : DelimitedColumn → Prop)
    (column : DelimitedColumn) : Prop where
  has : property column
  first : ∃ before after, format.columns = before ++ column :: after ∧
    ∀ other ∈ before, ¬ property other

/-- The column that a cell is given to: the first of the name that heads the cell, or, where no
column has that name, the first of the cell's position. -/
inductive Serves (format : DelimitedFormat) (position : Nat) (header : Option String)
    (column : DelimitedColumn) : Prop where
  | named (name : String) (heads : header = some name)
      (first : format.FirstColumn (·.name = some name) column)
  | placed (unnamed : ∀ name, header = some name → ∀ other ∈ format.columns,
        other.name ≠ some name)
      (first : format.FirstColumn (·.index = some position) column)

/-- The field that a cell of a column fills: the column's own, or, where that is empty, the one
called like the cell's header or, without a header, like the column. -/
inductive Fills (column : DelimitedColumn) (header : Option String) : String → Prop where
  | own (stated : column.conversion.field ≠ "") : Fills column header column.conversion.field
  | headed (name : String) (empty : column.conversion.field = "") (heads : header = some name) :
      Fills column header name
  | titled (name : String) (empty : column.conversion.field = "") (headless : header = none)
      (titled : column.name = some name) : Fills column header name

inductive Maps (format : DelimitedFormat) (position : Nat) (header : Option String) :
    Outcome (Option Conversion) → Prop where
  | served {column : DelimitedColumn} {field : String}
      (serves : format.Serves position header column) (fills : Fills column header field) :
      Maps format position header (.ok (some ⟨column.conversion.datatype, column.conversion.format,
        field⟩))
  | skipped (unserved : ∀ column, ¬ format.Serves position header column)
      (ignores : format.ignoresUnmapped = true) : Maps format position header (.ok none)
  | verbatim (name : String) (unserved : ∀ column, ¬ format.Serves position header column)
      (keeps : format.ignoresUnmapped = false) (heads : header = some name) :
      Maps format position header (.ok (some ⟨.text, "", name⟩))
  | missing (unserved : ∀ column, ¬ format.Serves position header column)
      (keeps : format.ignoresUnmapped = false) (headless : header = none) :
      Maps format position header (.error (unmapped position))

/-- What the cell at a position of a row gives its record: a value under a name, nothing where it
is skipped, or the failure of the row. -/
inductive Gives (format : DelimitedFormat) (header : Option (List String)) (row : List String)
    (position : Nat) : Outcome (Option (String × Value)) → Prop where
  | converted {cell : String} {conversion : Conversion} {value : Value}
      (stands : row[position]? = some cell)
      (maps : format.Maps position (headerAt header position) (.ok (some conversion)))
      (converts : conversion.convert cell = .ok value) :
      Gives format header row position (.ok (some (conversion.field, value)))
  | refused {cell : String} {conversion : Conversion} {failure : Failure}
      (stands : row[position]? = some cell)
      (maps : format.Maps position (headerAt header position) (.ok (some conversion)))
      (fails : conversion.convert cell = .error failure) :
      Gives format header row position (.error failure)
  | skipped {cell : String} (stands : row[position]? = some cell)
      (maps : format.Maps position (headerAt header position) (.ok none)) :
      Gives format header row position (.ok none)
  | unmapped {cell : String} {failure : Failure} (stands : row[position]? = some cell)
      (maps : format.Maps position (headerAt header position) (.error failure)) :
      Gives format header row position (.error failure)

/-! ## Columns -/

theorem find?_eq_some_iff_first {property : DelimitedColumn → Prop} [DecidablePred property]
    {column : DelimitedColumn} : format.columns.find? (fun other => property other) = some column ↔
      format.FirstColumn property column := by
  rw [List.find?_eq_some_iff_append]
  constructor
  · rintro ⟨has, before, after, whole, others⟩
    refine ⟨of_decide_eq_true has, before, after, whole, fun other member => ?_⟩
    simpa using others other member
  · rintro ⟨has, before, after, whole, others⟩
    refine ⟨decide_eq_true has, before, after, whole, fun other member => ?_⟩
    simpa using others other member

theorem column?_eq_some_iff_serves {column : DelimitedColumn} :
    format.column? position header = some column ↔ format.Serves position header column := by
  rw [column?_eq_some]
  constructor
  · rintro (⟨name, heads, found⟩ | ⟨unnamed, found⟩)
    · exact .named name heads (find?_eq_some_iff_first.1 found)
    · refine .placed (fun name heads => byHeader?_eq_none.1 (unnamed name heads)) ?_
      exact find?_eq_some_iff_first.1 found
  · rintro (⟨name, heads, first⟩ | ⟨unnamed, first⟩)
    · exact .inl ⟨name, heads, find?_eq_some_iff_first.2 first⟩
    · refine .inr ⟨fun name heads => byHeader?_eq_none.2 (unnamed name heads), ?_⟩
      exact find?_eq_some_iff_first.2 first

theorem column?_eq_none_iff_unserved :
    format.column? position header = none ↔
      ∀ column, ¬ format.Serves position header column := by
  simp only [← column?_eq_some_iff_serves, Option.eq_none_iff_forall_ne_some]

/-! ## Accepted settings -/

def FieldsNamed (format : DelimitedFormat) : Prop :=
  ∀ column ∈ format.columns, column.conversion.field = "" → ∃ name, column.name = some name

theorem columns_of_accepted {settings : Settings} (accepted : ofSettings settings = .ok format) :
    ∃ items, settings.requiredList "columns" = .ok items ∧
      List.Forall₂ (fun item column => ∃ members, item = .object members ∧
        DelimitedColumn.ofSettings format.namesByHeader members = .ok column)
        items format.columns := by
  obtain ⟨hasHeader, _, accepted⟩ := Outcome.bind_eq_ok.1 accepted
  obtain ⟨namesByHeader, _, accepted⟩ := Outcome.bind_eq_ok.1 accepted
  obtain ⟨ignoresUnmapped, _, accepted⟩ := Outcome.bind_eq_ok.1 accepted
  obtain ⟨delimiter, _, accepted⟩ := Outcome.bind_eq_ok.1 accepted
  obtain ⟨columns, read, accepted⟩ := Outcome.bind_eq_ok.1 accepted
  obtain ⟨items, listed, read⟩ := Outcome.bind_eq_ok.1 read
  obtain rfl := Except.ok.inj accepted
  exact ⟨items, listed, readItems_forall₂ read⟩

theorem fieldsNamed_of_accepted {settings : Settings}
    (accepted : ofSettings settings = .ok format) : format.FieldsNamed := by
  obtain ⟨items, _, each⟩ := columns_of_accepted accepted
  intro column member empty
  obtain ⟨members, accepted⟩ := exists_settings_of_mem each member
  exact DelimitedColumn.named_of_accepted accepted empty

/-! ## Resolving -/

theorem conversionOf_fills {column : DelimitedColumn}
    (named : column.conversion.field = "" → ∃ name, column.name = some name) :
    Fills column header (conversionOf column header).field := by
  rw [conversionOf]
  split
  · next isEmpty =>
      have empty := String.isEmpty_iff.1 isEmpty
      obtain ⟨title, titled⟩ := named empty
      cases header with
      | some name => exact .headed name empty rfl
      | none => exact .titled _ empty rfl (by rw [titled]; rfl)
  · next stated => exact .own fun empty => stated (String.isEmpty_iff.2 empty)

theorem Fills.conversionOf_eq {column : DelimitedColumn} {field : String}
    (fills : Fills column header field) : conversionOf column header =
      ⟨column.conversion.datatype, column.conversion.format, field⟩ := by
  rw [conversionOf]
  cases fills with
  | own stated => rw [if_neg fun empty => stated (String.isEmpty_iff.1 empty)]
  | headed name empty heads => rw [if_pos (String.isEmpty_iff.2 empty), heads]; rfl
  | titled name empty headless titled =>
      rw [if_pos (String.isEmpty_iff.2 empty), headless, titled]
      rfl

theorem conversionOf_keeps (column : DelimitedColumn) (header : Option String) :
    conversionOf column header = ⟨column.conversion.datatype, column.conversion.format,
      (conversionOf column header).field⟩ := by
  rw [conversionOf]
  split <;> rfl

/-- The rules are complete, and no two of them contradict each other. -/
theorem resolve_eq_iff_maps (named : format.FieldsNamed) {outcome : Outcome (Option Conversion)} :
    format.resolve position header = outcome ↔ format.Maps position header outcome := by
  constructor
  · rintro rfl
    unfold resolve
    cases found : format.column? position header with
    | some column =>
        have member : column ∈ format.columns := by
          rcases column?_eq_some.1 found with ⟨_, _, byName⟩ | ⟨_, byIndex⟩
          · exact List.mem_of_find?_eq_some byName
          · exact List.mem_of_find?_eq_some byIndex
        dsimp only
        rw [conversionOf_keeps]
        exact .served (column?_eq_some_iff_serves.1 found)
          (conversionOf_fills (named column member))
    | none =>
        have unserved := column?_eq_none_iff_unserved.1 found
        cases unmapped : format.ignoresUnmapped with
        | true => exact .skipped unserved unmapped
        | false =>
            cases header with
            | some name => exact .verbatim name unserved unmapped rfl
            | none => exact .missing unserved unmapped rfl
  · intro maps
    unfold resolve
    cases maps with
    | served serves fills =>
        rw [column?_eq_some_iff_serves.2 serves]
        dsimp only
        rw [fills.conversionOf_eq]
    | skipped unserved ignores =>
        rw [column?_eq_none_iff_unserved.2 unserved]
        simp [ignores]
    | verbatim name unserved keeps heads =>
        rw [column?_eq_none_iff_unserved.2 unserved]
        simp [keeps, heads]
    | missing unserved keeps headless =>
        rw [column?_eq_none_iff_unserved.2 unserved]
        simp [keeps, headless]

/-- What the rules say about a cell is what reading the cell comes to. -/
theorem gives_iff (named : format.FieldsNamed) {header : Option (List String)} {row : List String}
    {outcome : Outcome (Option (String × Value))} :
    format.Gives header row position outcome ↔
      (format.cellOutcomes header row)[position]? = some outcome := by
  rw [getElem?_cellOutcomes, Option.map_eq_some_iff]
  constructor
  · intro gives
    cases gives with
    | converted stands maps converts =>
        have resolved := (resolve_eq_iff_maps named).2 maps
        exact ⟨_, stands, by rw [readCell_of_converted resolved, converts]; rfl⟩
    | refused stands maps fails =>
        have resolved := (resolve_eq_iff_maps named).2 maps
        exact ⟨_, stands, by rw [readCell_of_converted resolved, fails]; rfl⟩
    | skipped stands maps =>
        exact ⟨_, stands, readCell_of_skipped ((resolve_eq_iff_maps named).2 maps)⟩
    | unmapped stands maps =>
        exact ⟨_, stands, readCell_of_refused ((resolve_eq_iff_maps named).2 maps)⟩
  · rintro ⟨cell, stands, rfl⟩
    rcases resolved : format.resolve position (headerAt header position) with
      failure | _ | conversion
    · rw [readCell_of_refused resolved]
      exact .unmapped stands ((resolve_eq_iff_maps named).1 resolved)
    · rw [readCell_of_skipped resolved]
      exact .skipped stands ((resolve_eq_iff_maps named).1 resolved)
    · have maps := (resolve_eq_iff_maps named).1 resolved
      rw [readCell_of_converted resolved]
      cases converts : conversion.convert cell with
      | error failure => exact .refused stands maps converts
      | ok value => exact .converted stands maps converts

/-! ## Reading a row -/

/-- Reading a row does what the rules say.  It succeeds exactly if each cell is skipped, or mapped
and converted; its record then collects what the cells give; and it fails exactly with the failure
of the first cell that has one. -/
theorem readRow_follows_rules {settings : Settings} (accepted : ofSettings settings = .ok format)
    (header : Option (List String)) (row : List String) :
    ((∃ record, format.readRow header row = .ok record) ↔
      ∀ position < row.length, ∃ given, format.Gives header row position (.ok given)) ∧
    (∀ record, format.readRow header row = .ok record → Collects (fun position name value =>
      format.Gives header row position (.ok (some (name, value)))) record) ∧
    ∀ failure, format.readRow header row = .error failure ↔
      ∃ position, format.Gives header row position (.error failure) ∧
        ∀ earlier < position, ∃ given, format.Gives header row earlier (.ok given) := by
  have named := fieldsNamed_of_accepted accepted
  simp only [gives_iff named]
  exact ⟨exists_readRow_iff, fun record reads => readRow_collects reads, fun failure =>
    readRow_eq_error⟩

/-- A field that is named by a header is filled twice: by position, and then by name.  In a second
row the cell that is found by name is no integer. -/
theorem readRow_follows_rules_same_field :
    let settings : Settings := [
      ("columns", .list [.object [("columnName", .text "b"), ("datatype", .text "integer")],
        .object [("datatype", .text "string"), ("fieldName", .text "b"), ("index", .int 0)]]),
      ("useHeaderColumnNamesAsFieldNames", .bool true)]
    ∃ format, ofSettings settings = .ok format ∧
      (∃ record, format.readRow (some ["a", "b"]) ["x", "7"] = .ok record ∧
        record.fields = [("b", .int 7)] ∧
          ∃ position, format.Gives (some ["a", "b"]) ["x", "7"] position
            (.ok (some ("b", .int 7)))) ∧
      ∃ position, format.Gives (some ["a", "b"]) ["x", "y"] position
        (.error (.conversion "b" "integer" "y" "invalid digit found in string")) := by
  intro settings
  have accepted : ofSettings settings = .ok _ := rfl
  refine ⟨_, accepted, ?_⟩
  obtain ⟨_, collects, _⟩ := readRow_follows_rules accepted (some ["a", "b"]) ["x", "7"]
  obtain ⟨_, _, fails⟩ := readRow_follows_rules accepted (some ["a", "b"]) ["x", "y"]
  obtain ⟨position, given, _⟩ := ((collects (.ofPairs [("b", .int 7)]) rfl).last "b" (.int 7)).1 rfl
  obtain ⟨other, refused, _⟩ := (fails _).1 rfl
  exact ⟨⟨_, rfl, rfl, position, given⟩, other, refused⟩

end DelimitedFormat

end Sluice
