import Sluice.Proofs.Settings
import Sluice.Proofs.Table.Mapping

/-!
# Where the names of fields come from

Where fields are not called by their headers, every column states its field.  A record then holds
what stands under those names and under the headers of cells that no column takes, but for one case:
a field that is stated to be empty is called by the cell's header all the same, or like the column.
-/

set_option autoImplicit false

namespace Sluice

theorem Settings.requiredText_eq_ok {settings : Settings} {key text : String} :
    settings.requiredText key = .ok text ↔ settings.get? key = some (.text text) := by
  rw [requiredText, required]
  cases settings.get? key with
  | none =>
      constructor
      · intro accepted
        cases accepted
      · intro given
        cases given
  | some value => cases value <;> simp

namespace DelimitedColumn

structure StatedBy (column : DelimitedColumn) (members : Settings) : Prop where
  field : members.get? Conversion.fieldKey = some (.text column.conversion.field)
  name : members.optionalText "columnName" = .ok column.name

theorem statedBy_of_accepted {members : Settings} {column : DelimitedColumn}
    (accepted : ofSettings false members = .ok column) : column.StatedBy members := by
  obtain ⟨name, named, accepted⟩ := Outcome.bind_eq_ok.1 accepted
  obtain ⟨index, _, accepted⟩ := Outcome.bind_eq_ok.1 accepted
  obtain ⟨conversion, converts, accepted⟩ := Outcome.bind_eq_ok.1 accepted
  obtain ⟨tag, _, converts⟩ := Outcome.bind_eq_ok.1 converts
  obtain ⟨datatype, _, converts⟩ := Outcome.bind_eq_ok.1 converts
  obtain ⟨pattern, _, converts⟩ := Outcome.bind_eq_ok.1 converts
  obtain ⟨field, stated, converts⟩ := Outcome.bind_eq_ok.1 converts
  obtain rfl := Except.ok.inj converts
  split at accepted
  · cases accepted
  · obtain rfl := Except.ok.inj accepted
    exact ⟨Settings.requiredText_eq_ok.1 stated, named⟩

end DelimitedColumn

namespace DelimitedFormat

variable {format : DelimitedFormat} {position : Nat} {header : Option String}

/-- The name that the settings give the field of a cell: the one that its column states, or, where
no column takes the cell, its header. -/
inductive Stated (format : DelimitedFormat) (position : Nat) (header : Option String) :
    String → Prop where
  | ofColumn {column : DelimitedColumn} (serves : format.Serves position header column) :
      Stated format position header column.conversion.field
  | ofHeader {name : String} (unserved : ∀ column, ¬ format.Serves position header column)
      (heads : header = some name) : Stated format position header name

theorem Serves.unique {column other : DelimitedColumn}
    (serves : format.Serves position header column)
    (servesToo : format.Serves position header other) : column = other := by
  rw [← column?_eq_some_iff_serves] at serves servesToo
  exact Option.some.inj (serves.symm.trans servesToo)

/-- Where the settings leave a field empty, they give it no other name. -/
theorem Serves.not_stated {column : DelimitedColumn} (serves : format.Serves position header column)
    (empty : column.conversion.field = "") {name : String} (named : name ≠ "") :
    ¬ format.Stated position header name := by
  intro stated
  cases stated with
  | ofColumn servesToo => exact named (servesToo.unique serves ▸ empty)
  | ofHeader unserved _ => exact unserved column serves

/-- A cell fills the field that the settings give it, unless that is stated to be empty and
something else fills in for it. -/
theorem stated_iff {conversion : Conversion}
    (maps : format.Maps position header (.ok (some conversion))) :
    format.Stated position header conversion.field ↔
      ∀ column, format.Serves position header column → column.conversion.field = "" →
        conversion.field = "" := by
  cases maps with
  | @served column field serves fills =>
      constructor
      · intro stated other servesToo empty
        cases stated with
        | ofColumn servesThis => rw [servesThis.unique servesToo, empty]
        | ofHeader unserved _ => exact (unserved column serves).elim
      · intro unfilled
        cases fills with
        | own stated => exact .ofColumn serves
        | headed name empty heads =>
            obtain rfl : field = "" := unfilled column serves empty
            exact empty ▸ .ofColumn serves
        | titled name empty headless titled =>
            obtain rfl : field = "" := unfilled column serves empty
            exact empty ▸ .ofColumn serves
  | verbatim name unserved keeps heads =>
      exact ⟨fun _ column serves => (unserved column serves).elim,
        fun _ => .ofHeader unserved heads⟩

/-- The names of a record are those of the fields that its cells fill. -/
theorem mem_names_iff_maps (named : format.FieldsNamed) {header : Option (List String)}
    {row : List String} {record : Record} (reads : format.readRow header row = .ok record)
    (name : String) : name ∈ record.names ↔ ∃ position < row.length, ∃ conversion,
      format.Maps position (headerAt header position) (.ok (some conversion)) ∧
        conversion.field = name := by
  rw [mem_names_iff_given reads]
  constructor
  · rintro ⟨position, value, stands⟩
    have gives := (gives_iff named).2 stands
    cases gives with
    | @converted cell conversion _ within maps converts =>
        exact ⟨position, (List.getElem?_eq_some_iff.1 within).1, conversion, maps, rfl⟩
  · rintro ⟨position, within, conversion, maps, rfl⟩
    obtain ⟨given, stands⟩ := exists_readRow_iff.1 ⟨record, reads⟩ position within
    have gives := (gives_iff named).2 stands
    have resolved := (resolve_eq_iff_maps named).2 maps
    cases gives with
    | @converted cell other value _ mapsToo converts =>
        rw [(resolve_eq_iff_maps named).2 mapsToo] at resolved
        obtain rfl := Option.some.inj (Except.ok.inj resolved)
        exact ⟨position, value, stands⟩
    | skipped _ mapsToo =>
        rw [(resolve_eq_iff_maps named).2 mapsToo] at resolved
        cases Except.ok.inj resolved

/-! ## Records -/

/-- Where fields are not called by their headers, the settings state the field of every column, and
a record holds what its cells fill.  A cell fills the field that the settings give it, unless this
is stated to be empty: then it is the one called by the cell's header, or else like the column. -/
theorem field_names_stated_iff {settings : Settings} (accepted : ofSettings settings = .ok format)
    (off : format.namesByHeader = false) :
    (∃ items, settings.requiredList "columns" = .ok items ∧
      List.Forall₂ (fun item column => ∃ members, item = .object members ∧
        DelimitedColumn.StatedBy column members) items format.columns) ∧
    (∀ (position : Nat) (header : Option String) (conversion : Conversion),
      format.resolve position header = .ok (some conversion) →
        (format.Stated position header conversion.field ↔
          ∀ column, format.Serves position header column → column.conversion.field = "" →
            conversion.field = "")) ∧
    ∀ (header : Option (List String)) (row : List String) (record : Record),
      format.readRow header row = .ok record → ∀ name, name ∈ record.names ↔
        ∃ position < row.length, ∃ conversion,
          format.resolve position (headerAt header position) = .ok (some conversion) ∧
            conversion.field = name := by
  have named := fieldsNamed_of_accepted accepted
  obtain ⟨items, listed, each⟩ := columns_of_accepted accepted
  rw [off] at each
  simp only [resolve_eq_iff_maps named]
  refine ⟨⟨items, listed, each.imp ?_⟩, fun position header conversion => stated_iff,
    fun header row record reads name => mem_names_iff_maps named reads name⟩
  rintro item column ⟨members, isItem, accepted⟩
  exact ⟨members, isItem, DelimitedColumn.statedBy_of_accepted accepted⟩

/-- The first column states no field and is named by the first header, the second column states one,
and no column takes the third cell. -/
theorem field_names_stated_iff_three_cells :
    let settings : Settings := [
      ("columns", .list [
        .object [("columnName", .text "a"), ("datatype", .text "string"), ("fieldName", .text "")],
        .object [("columnName", .text "b"), ("datatype", .text "integer"),
          ("fieldName", .text "n")]])]
    ∃ format, ofSettings settings = .ok format ∧ format.namesByHeader = false ∧
      ¬ format.Stated 0 (some "a") "a" ∧ format.Stated 1 (some "b") "n" ∧
      format.Stated 2 (some "c") "c" ∧
      ∃ record, format.readRow (some ["a", "b", "c"]) ["x", "7", "z"] = .ok record ∧
        ∃ position < 3, ∃ conversion,
          format.resolve position (headerAt (some ["a", "b", "c"]) position) =
            .ok (some conversion) ∧ conversion.field = "n" := by
  intro settings
  have accepted : ofSettings settings = .ok _ := rfl
  obtain ⟨_, stated, held⟩ := field_names_stated_iff accepted rfl
  refine ⟨_, accepted, rfl, fun first => ?_, (stated 1 (some "b") _ rfl).2 ?_,
    (stated 2 (some "c") _ rfl).2 ?_, .ofPairs [("a", .text "x"), ("n", .int 7), ("c", .text "z")],
    rfl, (held _ ["x", "7", "z"] _ rfl "n").1 (by decide)⟩
  · have empty : "a" = "" :=
      (stated 0 (some "a") _ rfl).1 first _ (column?_eq_some_iff_serves.1 rfl) rfl
    exact absurd empty (by decide)
  · intro column serves empty
    cases column?_eq_some_iff_serves.2 serves
    exact absurd empty (by decide)
  · intro column serves
    cases column?_eq_some_iff_serves.2 serves

/-- A column whose field is stated to be empty passes for one with a field: its cells fill a field
that no setting names, called by their header and, where there is none, like the column. -/
theorem empty_field_filled_in :
    let settings : Settings := [
      ("columns", .list [.object [("columnName", .text "a"), ("datatype", .text "string"),
        ("fieldName", .text ""), ("index", .int 0)]]),
      ("useHeaderColumnNamesAsFieldNames", .bool false)]
    ∃ format, ofSettings settings = .ok format ∧ format.namesByHeader = false ∧
      (∀ column ∈ format.columns, column.conversion.field = "") ∧
      format.readRow none ["1"] = .ok (.ofPairs [("a", .text "1")]) ∧
      format.readRow (some ["b"]) ["1"] = .ok (.ofPairs [("b", .text "1")]) ∧
      ¬ format.Stated 0 none "a" ∧ ¬ format.Stated 0 (some "b") "b" := by
  intro settings
  have accepted : ofSettings settings = .ok _ := rfl
  refine ⟨_, accepted, rfl, by simp, rfl, rfl, ?_, ?_⟩
  · exact (column?_eq_some_iff_serves.1 rfl).not_stated rfl (by decide)
  · exact (column?_eq_some_iff_serves.1 rfl).not_stated rfl (by decide)

end DelimitedFormat

end Sluice
