import Mathlib.Data.List.Nodup
import Mathlib.Data.List.Pairwise
import Sluice.Table.Delimited

/-!
# Which column a cell is given to

A cell belongs to the first column that its header names, or else to the first column of its
position.  So a column is found once by its name and once by its index: where the columns differ in
their names and in their indices, these are the only two cells that it can be given.
-/

set_option autoImplicit false

namespace Sluice

/-! ## Keys that some items have -/

section Keys

variable {α β : Type} {key : α → Option β} {items : List α}

theorem eq_of_nodup_keys (distinct : (items.filterMap key).Nodup) {one two : α} {value : β}
    (memberOne : one ∈ items) (memberTwo : two ∈ items) (keyOne : key one = some value)
    (keyTwo : key two = some value) : one = two := by
  by_contra apart
  have separate := List.pairwise_filterMap.1 distinct
  have symmetric : Std.Symm fun one two : α =>
      ∀ value, key one = some value → ∀ other, key two = some other → value ≠ other :=
    ⟨fun one two differ value keyed other keyedOther => (differ other keyedOther value keyed).symm⟩
  exact separate.forall memberOne memberTwo apart value keyOne value keyTwo rfl

/-- Where no key is shared, whatever has the key is what a search finds. -/
theorem find?_key_eq_some [DecidableEq β] (distinct : (items.filterMap key).Nodup) {value : β}
    {item : α} : items.find? (fun other => key other = some value) = some item ↔
      item ∈ items ∧ key item = some value := by
  constructor
  · intro found
    exact ⟨List.mem_of_find?_eq_some found, by simpa using List.find?_some found⟩
  · rintro ⟨member, keyed⟩
    have hit : (items.find? fun other => key other = some value).isSome :=
      List.find?_isSome.2 ⟨item, member, decide_eq_true keyed⟩
    obtain ⟨other, found⟩ := Option.isSome_iff_exists.1 hit
    have keyedOther : key other = some value := by simpa using List.find?_some found
    rw [found, eq_of_nodup_keys distinct (List.mem_of_find?_eq_some found) member keyedOther keyed]

theorem position_unique {names : List β} (distinct : names.Nodup) {name : β} {one two : Nat}
    (first : names[one]? = some name) (second : names[two]? = some name) : one = two := by
  obtain ⟨within, _⟩ := List.getElem?_eq_some_iff.1 first
  exact (List.getElem?_inj within distinct).1 (first.trans second.symm)

end Keys

namespace DelimitedFormat

variable {format : DelimitedFormat} {column : DelimitedColumn}

/-! ## Looking a column up -/

def NamesDiffer (format : DelimitedFormat) : Prop := (format.columns.filterMap (·.name)).Nodup

def IndicesDiffer (format : DelimitedFormat) : Prop := (format.columns.filterMap (·.index)).Nodup

theorem byHeader?_eq_some (differ : format.NamesDiffer) {name : String} :
    format.byHeader? name = some column ↔ column ∈ format.columns ∧ column.name = some name :=
  find?_key_eq_some differ

theorem byIndex?_eq_some (differ : format.IndicesDiffer) {position : Nat} :
    format.byIndex? position = some column ↔
      column ∈ format.columns ∧ column.index = some position :=
  find?_key_eq_some differ

theorem byHeader?_eq_none {name : String} :
    format.byHeader? name = none ↔ ∀ column ∈ format.columns, column.name ≠ some name := by
  simp [byHeader?, List.find?_eq_none]

theorem byIndex?_eq_none {position : Nat} :
    format.byIndex? position = none ↔
      ∀ column ∈ format.columns, column.index ≠ some position := by
  simp [byIndex?, List.find?_eq_none]

/-- A cell's column is found by the header, or, where the header finds none, by the position. -/
theorem column?_eq_some {position : Nat} {header : Option String} :
    format.column? position header = some column ↔
      (∃ name, header = some name ∧ format.byHeader? name = some column) ∨
        (∀ name, header = some name → format.byHeader? name = none) ∧
          format.byIndex? position = some column := by
  rw [column?, Option.or_eq_some_iff]
  cases header with
  | none => simp
  | some name => simp

/-! ## Columns that are found twice -/

/-- The column is found by its name at one position, and at another one, whose header names no
column, by its index. -/
structure FoundAgain (format : DelimitedFormat) (header : List String) (column : DelimitedColumn)
    (named placed : Nat) : Prop where
  member : column ∈ format.columns
  name : ∃ name, header[named]? = some name ∧ column.name = some name
  index : column.index = some placed
  unnamed : ∀ name, header[placed]? = some name → ∀ other ∈ format.columns, other.name ≠ some name

theorem FoundAgain.found {header : List String} {named placed : Nat} (names : format.NamesDiffer)
    (indices : format.IndicesDiffer) (again : format.FoundAgain header column named placed) :
    format.column? named header[named]? = some column ∧
      format.column? placed header[placed]? = some column := by
  obtain ⟨name, stands, named⟩ := again.name
  refine ⟨column?_eq_some.2 (.inl ⟨name, stands, ?_⟩), column?_eq_some.2 (.inr ⟨?_, ?_⟩)⟩
  · exact (byHeader?_eq_some names).2 ⟨again.member, named⟩
  · exact fun other stands => byHeader?_eq_none.2 (again.unnamed other stands)
  · exact (byIndex?_eq_some indices).2 ⟨again.member, again.index⟩

/-- A column is given two cells of a row exactly if one of them stands below its name and the other
one at its index, below a header that names no column.  By its name, and by its index, it is given
one cell at most. -/
theorem same_column_twice_iff (names : format.NamesDiffer) (indices : format.IndicesDiffer)
    {header : List String} (distinct : header.Nodup) {first second : Nat} (apart : first ≠ second) :
    (format.column? first header[first]? = some column ∧
        format.column? second header[second]? = some column) ↔
      format.FoundAgain header column first second ∨
        format.FoundAgain header column second first := by
  constructor
  · rintro ⟨one, two⟩
    rcases column?_eq_some.1 one with ⟨name, stands, byName⟩ | ⟨unnamed, byIndex⟩
    · obtain ⟨member, named⟩ := (byHeader?_eq_some names).1 byName
      rcases column?_eq_some.1 two with ⟨other, standsToo, byNameToo⟩ | ⟨unnamed, byIndex⟩
      · -- Found by its name twice, it would stand in the header twice.
        obtain ⟨_, namedToo⟩ := (byHeader?_eq_some names).1 byNameToo
        obtain rfl : name = other := Option.some.inj (named.symm.trans namedToo)
        exact (apart (position_unique distinct stands standsToo)).elim
      · refine .inl ⟨member, ⟨name, stands, named⟩, ((byIndex?_eq_some indices).1 byIndex).2, ?_⟩
        exact fun other stands => byHeader?_eq_none.1 (unnamed other stands)
    · obtain ⟨member, placed⟩ := (byIndex?_eq_some indices).1 byIndex
      rcases column?_eq_some.1 two with ⟨name, stands, byName⟩ | ⟨_, byIndexToo⟩
      · refine .inr ⟨member, ⟨name, stands, ((byHeader?_eq_some names).1 byName).2⟩, placed, ?_⟩
        exact fun other stands => byHeader?_eq_none.1 (unnamed other stands)
      · -- Found by its index twice, it would be at two positions.
        obtain ⟨_, placedToo⟩ := (byIndex?_eq_some indices).1 byIndexToo
        exact (apart (Option.some.inj (placed.symm.trans placedToo))).elim
  · rintro (again | again)
    · exact again.found names indices
    · exact (again.found names indices).symm

/-- Each of two columns has the position of the other one for its index: both are given one cell. -/
theorem same_column_twice_iff_crossed :
    let first : DelimitedColumn := ⟨some "a", some 1, ⟨.text, "", "x"⟩⟩
    let second : DelimitedColumn := ⟨some "b", some 0, ⟨.integer, "", "y"⟩⟩
    let format : DelimitedFormat := ⟨true, false, true, 44, [first, second]⟩
    let header : List String := ["a", "b"]
    format.NamesDiffer ∧ format.IndicesDiffer ∧ header.Nodup ∧ (0 : Nat) ≠ 1 ∧
      format.column? 0 header[0]? = some first ∧ format.column? 1 header[1]? ≠ some first := by
  intro first second format header
  have names : format.NamesDiffer := by simp [NamesDiffer, format, first, second]
  have indices : format.IndicesDiffer := by simp [IndicesDiffer, format, first, second]
  have distinct : header.Nodup := by simp [header]
  refine ⟨names, indices, distinct, Nat.zero_ne_one, rfl, fun twice => ?_⟩
  rcases (same_column_twice_iff names indices distinct Nat.zero_ne_one).1 ⟨rfl, twice⟩ with
    again | again
  · exact again.unnamed "b" rfl second (by simp [format]) rfl
  · exact Nat.one_ne_zero (Option.some.inj again.index)

/-- A column is named by the first header and its index is the position of the second one, which no
column is named by: it is given both cells, and the record keeps the latter. -/
theorem column_given_two_cells :
    let settings : Settings := [
      ("columns", .list [.object [("columnName", .text "a"), ("datatype", .text "string"),
        ("fieldName", .text "x"), ("index", .int 1)]]),
      ("hasHeaderRow", .bool true), ("ignoreUnmappedColumns", .bool true)]
    let header : List String := ["a", "b"]
    ∃ format column, ofSettings settings = .ok format ∧ format.NamesDiffer ∧
      format.IndicesDiffer ∧ header.Nodup ∧ format.column? 0 header[0]? = some column ∧
        format.column? 1 header[1]? = some column ∧ ∃ record,
          format.readRow (some header) ["1", "2"] = .ok record ∧
            record.fields = [("x", .text "2")] := by
  intro settings header
  refine ⟨_, _, rfl, ?_, ?_, ?_, rfl, rfl, _, rfl, rfl⟩
  · simp [NamesDiffer]
  · simp [IndicesDiffer]
  · simp [header]

end DelimitedFormat

end Sluice
