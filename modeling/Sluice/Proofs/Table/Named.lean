import Sluice.Proofs.Table.Cells
import Sluice.Proofs.Table.Resolution

/-!
# Columns that are found by their names

Where no column has an index, what a cell gives depends on its header and on its text.  The values
of the columns are of the kinds that these declare; but a text that no column takes is kept under
its header, and a header may be called like the field of a column.
-/

set_option autoImplicit false

namespace Sluice

inductive Datatype.Holds : Datatype → Value → Prop where
  | text (text : String) : Holds .text (.text text)
  | integer (number : Int64) : Holds .integer (.int number)
  | decimal (number : Binary64) : Holds .decimal (.float number)
  | date (moment : Moment) : Holds .date (.moment moment)

theorem Conversion.convert_holds {conversion : Conversion} {raw : String} {value : Value}
    (converts : conversion.convert raw = .ok value) : conversion.datatype.Holds value := by
  obtain ⟨datatype, format, field⟩ := conversion
  rw [convert] at converts
  cases datatype with
  | text =>
      obtain rfl := Except.ok.inj converts
      exact .text raw
  | integer =>
      dsimp only at converts
      split at converts
      · obtain rfl := Except.ok.inj converts
        exact .integer _
      · cases converts
  | decimal =>
      dsimp only at converts
      split at converts
      · obtain rfl := Except.ok.inj converts
        exact .decimal _
      · cases converts
  | date =>
      dsimp only at converts
      split at converts
      · obtain rfl := Except.ok.inj converts
        exact .date _
      · cases converts

namespace DelimitedFormat

variable {format : DelimitedFormat}

/-- The columns are found by their names only, and each has a field of its own. -/
structure ByName (format : DelimitedFormat) : Prop where
  unplaced : ∀ column ∈ format.columns, column.index = none
  names : format.NamesDiffer
  fields : (format.columns.map (·.conversion.field)).Nodup
  stated : ∀ column ∈ format.columns, column.conversion.field ≠ ""

def headedCell (format : DelimitedFormat) (name cell : String) :
    Outcome (Option (String × Value)) :=
  match format.byHeader? name with
  | some column =>
    (column.conversion.convert cell).map fun value => some (column.conversion.field, value)
  | none => .ok (if format.ignoresUnmapped then none else some (name, .text cell))

/-- The field that a cell fills below a header: that of the column which the header names, or else
the one called like the header. -/
inductive Below (format : DelimitedFormat) (name field : String) : Prop where
  | named (column : DelimitedColumn) (member : column ∈ format.columns)
      (named : column.name = some name) (fills : column.conversion.field = field)
  | plain (unnamed : ∀ column ∈ format.columns, column.name ≠ some name) (fills : name = field)

/-- A header that names no column is called like the field of a column that another one names. -/
def Shadows (format : DelimitedFormat) (plain typed : String) : Prop :=
  (∀ column ∈ format.columns, column.name ≠ some plain) ∧
    ∃ column ∈ format.columns, column.name = some typed ∧ column.conversion.field = plain

theorem below_of_headedCell {name cell field : String} {value : Value}
    (given : format.headedCell name cell = .ok (some (field, value))) :
    format.Below name field := by
  rw [headedCell] at given
  cases found : format.byHeader? name with
  | some column =>
      rw [found] at given
      obtain ⟨converted, _, given⟩ := Outcome.map_eq_ok.1 given
      cases given
      refine .named column (List.mem_of_find?_eq_some found) ?_ rfl
      simpa using List.find?_some found
  | none =>
      rw [found] at given
      dsimp only at given
      split at given <;> cases given
      exact .plain (byHeader?_eq_none.1 found) rfl

/-- Where unmapped columns are kept, no cell below a header is skipped. -/
theorem headedCell_kept (keeps : format.ignoresUnmapped = false) (name cell : String) :
    format.headedCell name cell ≠ .ok none := by
  intro skipped
  rw [headedCell] at skipped
  cases found : format.byHeader? name with
  | some column =>
      rw [found] at skipped
      obtain ⟨converted, _, skipped⟩ := Outcome.map_eq_ok.1 skipped
      cases skipped
  | none =>
      rw [found, keeps] at skipped
      cases skipped

namespace ByName

variable (byName : format.ByName)

include byName

theorem column?_eq (position : Nat) (header : Option String) :
    format.column? position header = header.bind format.byHeader? := by
  have unplaced : format.byIndex? position = none := by
    refine byIndex?_eq_none.2 fun column member placed => ?_
    rw [byName.unplaced column member] at placed
    cases placed
  rw [column?, unplaced, Option.or_none]

theorem conversionOf_eq {column : DelimitedColumn} (member : column ∈ format.columns)
    (header : Option String) : conversionOf column header = column.conversion := by
  rw [conversionOf, if_neg fun empty => byName.stated column member (String.isEmpty_iff.1 empty)]

variable {header : List String} {position : Nat} {cell name : String}

/-- At which position a cell stands does not matter below a header. -/
theorem readCell_headed (heads : header[position]? = some name) :
    format.readCell (some header) position cell = format.headedCell name cell := by
  have resolves : format.resolve position (headerAt (some header) position) =
      match format.byHeader? name with
      | some column => .ok (some (conversionOf column (some name)))
      | none => .ok (if format.ignoresUnmapped then none else some ⟨.text, "", name⟩) := by
    rw [headerAt, Option.bind_some, heads, resolve, byName.column?_eq, Option.bind_some]
    cases format.ignoresUnmapped <;> rfl
  rw [headedCell]
  cases found : format.byHeader? name with
  | some column =>
      rw [found] at resolves
      dsimp only at resolves
      rw [byName.conversionOf_eq (List.mem_of_find?_eq_some found)] at resolves
      exact readCell_of_converted resolves
  | none =>
      rw [found] at resolves
      cases unmapped : format.ignoresUnmapped with
      | true =>
          rw [unmapped] at resolves
          exact readCell_of_skipped resolves
      | false =>
          rw [unmapped] at resolves
          exact readCell_of_converted resolves

/-- A cell below the name of a column is converted. -/
theorem readCell_named {column : DelimitedColumn} (member : column ∈ format.columns)
    (named : column.name = some name) (heads : header[position]? = some name) :
    format.readCell (some header) position cell =
      (column.conversion.convert cell).map fun value => some (column.conversion.field, value) := by
  rw [byName.readCell_headed heads, headedCell, (byHeader?_eq_some byName.names).2 ⟨member, named⟩]

/-- A cell below any other header is skipped, or kept as it stands. -/
theorem readCell_plain (unnamed : ∀ column ∈ format.columns, column.name ≠ some name)
    (heads : header[position]? = some name) :
    format.readCell (some header) position cell =
      .ok (if format.ignoresUnmapped then none else some (name, .text cell)) := by
  rw [byName.readCell_headed heads, headedCell, byHeader?_eq_none.2 unnamed]

/-- A cell without a header is skipped, or it cannot be read. -/
theorem readCell_headless (headless : header[position]? = none) :
    format.readCell (some header) position cell =
      if format.ignoresUnmapped then .ok none else .error (unmapped position) := by
  have resolved : format.resolve position (headerAt (some header) position) =
      if format.ignoresUnmapped then .ok none else .error (unmapped position) := by
    rw [headerAt, Option.bind_some, headless, resolve, byName.column?_eq, Option.bind_none]
  cases unmapped : format.ignoresUnmapped with
  | true =>
      rw [unmapped] at resolved
      exact readCell_of_skipped resolved
  | false =>
      rw [unmapped] at resolved
      exact readCell_of_refused resolved

/-! ## The fields of a row -/

/-- What is given is given under the field below some header. -/
theorem given_below {row : List String} {field : String} {value : Value}
    (given : (format.cellOutcomes (some header) row)[position]? =
      some (.ok (some (field, value)))) :
    ∃ name, header[position]? = some name ∧ format.Below name field := by
  rw [getElem?_cellOutcomes, Option.map_eq_some_iff] at given
  obtain ⟨cell, _, given⟩ := given
  cases heads : header[position]? with
  | none =>
      rw [byName.readCell_headless heads] at given
      split at given <;> cases given
  | some name =>
      rw [byName.readCell_headed heads] at given
      exact ⟨name, rfl, below_of_headedCell given⟩

/-- Unless one of them shadows the other, different headers stand above different fields. -/
theorem eq_of_below {one two field : String} (below : format.Below one field)
    (belowToo : format.Below two field) (clear : ¬ format.Shadows one two)
    (clearToo : ¬ format.Shadows two one) : one = two := by
  cases below with
  | plain plainOne fills =>
      cases belowToo with
      | plain _ fillsToo => exact fills.trans fillsToo.symm
      | named column member named fillsToo =>
          exact (clear ⟨plainOne, column, member, named, fillsToo.trans fills.symm⟩).elim
  | named column member named fills =>
      cases belowToo with
      | plain plainTwo fillsToo =>
          exact (clearToo ⟨plainTwo, column, member, named, fills.trans fillsToo.symm⟩).elim
      | named other memberToo namedToo fillsToo =>
          have same := fills.trans fillsToo.symm
          obtain rfl := List.inj_on_of_nodup_map byName.fields member memberToo same
          exact Option.some.inj (named.symm.trans namedToo)

/-- Where no header shadows another one, no two cells of a row meet under one name. -/
theorem nodup_names {row : List String} {given : List (Option (String × Value))}
    (each : format.cellOutcomes (some header) row = given.map .ok) (distinct : header.Nodup)
    (clear : ∀ one < row.length, ∀ two < row.length, ∀ plain typed, header[one]? = some plain →
      header[two]? = some typed → ¬ format.Shadows plain typed) :
    (given.reduceOption.map Prod.fst).Nodup := by
  have outcome : ∀ {position : Nat} {field : String} {value : Value},
      given[position]? = some (some (field, value)) →
        position < row.length ∧
          ∃ name, header[position]? = some name ∧ format.Below name field := by
    intro position field value stands
    have found : (format.cellOutcomes (some header) row)[position]? =
        some (.ok (some (field, value))) := by
      rw [each, List.getElem?_map, stands]
      rfl
    obtain ⟨within, _⟩ := List.getElem?_eq_some_iff.1 found
    rw [length_cellOutcomes] at within
    exact ⟨within, byName.given_below found⟩
  refine nodup_names_iff.2 fun one two field value other first second => ?_
  obtain ⟨inOne, nameOne, headsOne, below⟩ := outcome first
  obtain ⟨inTwo, nameTwo, headsTwo, belowToo⟩ := outcome second
  obtain rfl := byName.eq_of_below below belowToo
    (clear one inOne two inTwo nameOne nameTwo headsOne headsTwo)
    (clear two inTwo one inOne nameTwo nameOne headsTwo headsOne)
  exact position_unique distinct headsOne headsTwo

end ByName

/-! ## Declared types -/

structure Feeds (format : DelimitedFormat) (header row : List String) (position : Nat)
    (column : DelimitedColumn) (cell : String) : Prop where
  member : column ∈ format.columns
  named : ∃ name, column.name = some name ∧ header[position]? = some name
  stands : row[position]? = some cell

structure Meets (format : DelimitedFormat) (header row : List String) (position : Nat)
    (column : DelimitedColumn) (text : String) : Prop where
  heads : header[position]? = some column.conversion.field
  unnamed : ∀ other ∈ format.columns, other.name ≠ some column.conversion.field
  stands : row[position]? = some text

namespace ByName

variable {header row : List String} {position : Nat} {column : DelimitedColumn}

theorem outcome_fed {cell : String} (byName : format.ByName)
    (feeds : format.Feeds header row position column cell) :
    (format.cellOutcomes (some header) row)[position]? =
      some ((column.conversion.convert cell).map fun value =>
        some (column.conversion.field, value)) := by
  obtain ⟨name, named, heads⟩ := feeds.named
  rw [getElem?_cellOutcomes, feeds.stands, Option.map_some,
    byName.readCell_named feeds.member named heads]

theorem outcome_met {text : String} (byName : format.ByName)
    (keeps : format.ignoresUnmapped = false)
    (meets : format.Meets header row position column text) :
    (format.cellOutcomes (some header) row)[position]? =
      some (.ok (some (column.conversion.field, .text text))) := by
  rw [getElem?_cellOutcomes, meets.stands, Option.map_some,
    byName.readCell_plain meets.unnamed meets.heads, keeps]
  rfl

/-- Where unmapped columns are kept, no cell is skipped. -/
theorem not_skipped (byName : format.ByName) (keeps : format.ignoresUnmapped = false) :
    (format.cellOutcomes (some header) row)[position]? ≠ some (.ok none) := by
  rw [getElem?_cellOutcomes, Ne, Option.map_eq_some_iff]
  rintro ⟨cell, _, skipped⟩
  cases heads : header[position]? with
  | none =>
      rw [byName.readCell_headless heads, keeps] at skipped
      cases skipped
  | some name =>
      rw [byName.readCell_headed heads] at skipped
      exact headedCell_kept keeps name cell skipped

/-- Where the row is read, the cell of a column is converted. -/
theorem converts_of_reads (byName : format.ByName) {cell : String} {record : Record}
    (feeds : format.Feeds header row position column cell)
    (reads : format.readRow (some header) row = .ok record) :
    ∃ value, column.conversion.convert cell = .ok value ∧
      (format.cellOutcomes (some header) row)[position]? =
        some (.ok (some (column.conversion.field, value))) := by
  obtain ⟨given, each, _⟩ := readRow_eq_ok.1 reads
  have fed := byName.outcome_fed feeds
  cases converts : column.conversion.convert cell with
  | error failure =>
      rw [converts, each, List.getElem?_map, Option.map_eq_some_iff] at fed
      obtain ⟨_, _, fed⟩ := fed
      cases fed
  | ok value =>
      rw [converts] at fed
      exact ⟨value, rfl, fed⟩

/-- The record has a field for each cell exactly if no text meets a column under its field. -/
theorem size_eq_iff (byName : format.ByName) (keeps : format.ignoresUnmapped = false)
    (distinct : header.Nodup) {record : Record}
    (reads : format.readRow (some header) row = .ok record) :
    record.size = row.length ↔ ∀ position column cell other text,
      format.Feeds header row position column cell →
        ¬ format.Meets header row other column text := by
  obtain ⟨given, each, rfl⟩ := readRow_eq_ok.1 reads
  have stands : ∀ (position : Nat) (pair : Option (String × Value)),
      given[position]? = some pair ↔
        (format.cellOutcomes (some header) row)[position]? = some (.ok pair) := by
    simp [each]
  have full : given.reduceOption.length = given.length := by
    refine List.reduceOption_length_eq_iff.2 fun pair member => ?_
    obtain ⟨position, found⟩ := List.mem_iff_getElem?.1 member
    cases pair with
    | none => exact (byName.not_skipped keeps ((stands position none).1 found)).elim
    | some pair => rfl
  have width : given.length = row.length := by
    have whole := congrArg List.length each
    rw [length_cellOutcomes, List.length_map] at whole
    exact whole.symm
  -- Each cell gives a field, so that none is lost exactly if no two of them have one name.
  rw [← width, ← full, Record.size_ofPairs_eq_iff]
  constructor
  · intro nodup position column cell other text feeds meets
    have met := (stands other _).2 (byName.outcome_met keeps meets)
    obtain ⟨value, _, fed⟩ := byName.converts_of_reads feeds reads
    obtain rfl := nodup_names_iff.1 nodup _ _ _ _ _ ((stands position _).2 fed) met
    obtain ⟨name, named, heads⟩ := feeds.named
    obtain rfl := Option.some.inj (heads.symm.trans meets.heads)
    exact meets.unnamed column feeds.member named
  · intro apart
    refine byName.nodup_names each distinct ?_
    rintro one inOne two inTwo plain typed headsOne headsTwo ⟨unnamed, column, member, named, rfl⟩
    exact apart two column _ one _
      ⟨member, ⟨typed, named, headsTwo⟩, List.getElem?_eq_getElem inTwo⟩
      ⟨headsOne, unnamed, List.getElem?_eq_getElem inOne⟩

/-- The field of a column is filled by the cell of the column, or else by a text that is met. -/
theorem position_or_met (byName : format.ByName) (distinct : header.Nodup) {cell : String}
    (feeds : format.Feeds header row position column cell) {other : Nat} {value : Value}
    (given : (format.cellOutcomes (some header) row)[other]? =
      some (.ok (some (column.conversion.field, value)))) :
    other = position ∨ ∃ text, format.Meets header row other column text := by
  obtain ⟨heading, heads, below⟩ := byName.given_below given
  cases below with
  | plain unnamed fills =>
      subst fills
      rw [getElem?_cellOutcomes, Option.map_eq_some_iff] at given
      obtain ⟨text, stands, _⟩ := given
      exact .inr ⟨text, heads, unnamed, stands⟩
  | named another member named fills =>
      obtain rfl := List.inj_on_of_nodup_map byName.fields member feeds.member fills
      obtain ⟨name, namedToo, headsToo⟩ := feeds.named
      obtain rfl := Option.some.inj (named.symm.trans namedToo)
      exact .inl (position_unique distinct heads headsToo)

end ByName

theorem Meets.unique {header row : List String} {column : DelimitedColumn} {one two : Nat}
    {text other : String} (distinct : header.Nodup)
    (meets : format.Meets header row one column text)
    (meetsToo : format.Meets header row two column other) : one = two :=
  position_unique distinct meets.heads meetsToo.heads

/-- Where every column of a row is kept and those that are declared are found by their names, each
cell of a declared column is converted to a value of the declared kind.  The record holds that value
under the field of the column, unless a later text is met there: then it holds that text.  It has as
many fields as the row has cells exactly if no such text is met at all. -/
theorem declared_kinds_held (keeps : format.ignoresUnmapped = false) (byName : format.ByName)
    {header row : List String} (distinct : header.Nodup) {record : Record}
    (reads : format.readRow (some header) row = .ok record) :
    (∀ position column cell, format.Feeds header row position column cell →
      ∃ value, column.conversion.convert cell = .ok value ∧
        column.conversion.datatype.Holds value ∧
        ((∀ later text, position < later → ¬ format.Meets header row later column text) →
          record.get? column.conversion.field = some value) ∧
        ∀ later text, position < later → format.Meets header row later column text →
          record.get? column.conversion.field = some (.text text)) ∧
    (record.size = row.length ↔ ∀ position column cell other text,
      format.Feeds header row position column cell →
        ¬ format.Meets header row other column text) := by
  refine ⟨fun position column cell feeds => ?_, byName.size_eq_iff keeps distinct reads⟩
  have collects := readRow_collects reads
  obtain ⟨value, converts, fed⟩ := byName.converts_of_reads feeds reads
  refine ⟨value, converts, Conversion.convert_holds converts, fun unmet => ?_,
    fun later text past meets => ?_⟩
  · -- What else would fill the field of the column is a text that is met there.
    refine (collects.last _ _).2 ⟨position, fed, fun later other past gives => ?_⟩
    rcases byName.position_or_met distinct feeds gives with rfl | ⟨text, meets⟩
    · exact Nat.lt_irrefl _ past
    · exact unmet later text past meets
  · -- Only one header is called like the field, so that no later text is met there.
    refine (collects.last _ _).2 ⟨later, byName.outcome_met keeps meets, ?_⟩
    intro last other beyond gives
    rcases byName.position_or_met distinct feeds gives with rfl | ⟨_, meetsToo⟩
    · exact Nat.lt_irrefl _ (Nat.lt_trans past beyond)
    · exact Nat.ne_of_lt beyond (meets.unique distinct meetsToo)

/-- A column is declared, and the text of another one is kept beside it. -/
theorem declared_kinds_held_beside_text :
    let age : DelimitedColumn := ⟨some "age", none, ⟨.integer, "", "years"⟩⟩
    let format : DelimitedFormat := ⟨true, false, false, 44, [age]⟩
    let header : List String := ["age", "note"]
    format.ignoresUnmapped = false ∧ format.ByName ∧ header.Nodup ∧ ∃ record,
      format.readRow (some header) ["41", "x"] = .ok record ∧
        record.get? "years" = some (.int 41) ∧ record.size = 2 := by
  intro age format header
  have byName : format.ByName :=
    ⟨by simp [format, age], by simp [NamesDiffer, format, age], by simp [format], by
      simp [format, age]⟩
  have distinct : header.Nodup := by simp [header]
  have unmet : ∀ position text,
      ¬ format.Meets header ["41", "x"] position age text := fun position text meets => by
    simpa [header, age] using List.mem_of_getElem? meets.heads
  have reads : format.readRow (some header) ["41", "x"] = .ok _ := rfl
  obtain ⟨held, sizes⟩ := declared_kinds_held rfl byName distinct reads
  refine ⟨rfl, byName, distinct, _, reads, ?_, ?_⟩
  · have feeds : format.Feeds header ["41", "x"] 0 age "41" :=
      ⟨by simp [format], ⟨"age", rfl, rfl⟩, rfl⟩
    obtain ⟨value, converts, _, kept, _⟩ := held 0 age "41" feeds
    obtain rfl : Value.int 41 = value := Except.ok.inj converts
    exact kept fun later text _ => unmet later text
  · refine sizes.2 fun position column cell other text feeds => ?_
    obtain rfl : column = age := by simpa [format] using feeds.member
    exact unmet other text

/-- The last header names no column, and is called like the field of the first: the number declared
there is lost for the text. -/
theorem declared_kind_lost :
    let settings : Settings := [
      ("columns", .list [.object [("columnName", .text "age"), ("datatype", .text "integer"),
        ("fieldName", .text "years")]]),
      ("hasHeaderRow", .bool true)]
    let header : List String := ["age", "years"]
    ∃ format column record, ofSettings settings = .ok format ∧ format.ignoresUnmapped = false ∧
      format.ByName ∧ header.Nodup ∧ format.Feeds header ["41", "x"] 0 column "41" ∧
        column.conversion.convert "41" = .ok (.int 41) ∧
          format.readRow (some header) ["41", "x"] = .ok record ∧
            record.fields = [("years", .text "x")] := by
  intro settings header
  refine ⟨_, ⟨some "age", none, ⟨.integer, "", "years"⟩⟩, _, rfl, rfl, ?_, ?_, ?_, rfl, rfl, rfl⟩
  · exact ⟨by simp, by simp [NamesDiffer], by simp, by simp⟩
  · simp [header]
  · exact ⟨by simp, ⟨"age", rfl, rfl⟩, rfl⟩

end DelimitedFormat

end Sluice
