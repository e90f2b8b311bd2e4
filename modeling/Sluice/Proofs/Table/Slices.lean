import Sluice.Proofs.Table.Mapping
import Sluice.Proofs.Text.Boundary
import Sluice.Table.FixedWidth

/-!
# Columns cut out of lines

A column of fixed width gives a line's record the value that its bytes come to, or it fails: because
the bytes cannot be cut out, or because what they say cannot be converted.  A line comes to the
record of all that its columns give, or to the failure of the first column that has one; and it
comes to the same record as every long enough line that has the same bytes in the columns.
-/

set_option autoImplicit false

namespace Sluice

open TextCut

namespace FixedWidthColumn

variable {column : FixedWidthColumn} {line : List Char} {number : Nat}

/-- What a column makes of a line: the value of the text that is left of its bytes between blanks,
or the failure to convert that text, or, where the bytes cannot be cut out, where they would be and
how many there are. -/
inductive Gives (column : FixedWidthColumn) (line : List Char) (number : Nat) :
    Outcome Value → Prop where
  | converted {cut : List Char} {value : Value}
      (cuts : CutsOut line column.start (column.start + column.length) cut)
      (converts : column.conversion.convert (String.ofList (trimChars cut)) = .ok value) :
      Gives column line number (.ok value)
  | refused {cut : List Char} {failure : Failure}
      (cuts : CutsOut line column.start (column.start + column.length) cut)
      (refuses : column.conversion.convert (String.ofList (trimChars cut)) = .error failure) :
      Gives column line number (.error failure)
  | outside (unfit : ¬ Fits line column.start (column.start + column.length)) :
      Gives column line number (.error (.outOfBounds column.conversion.field column.start
        (column.start + column.length) number (Utf8.encode line).length))

def read (column : FixedWidthColumn) (line : List Char) (number : Nat) : Outcome Value := do
  let cut ← column.slice line number
  column.conversion.convert (String.ofList (trimChars cut))

theorem slice_eq_ok {cut : List Char} : column.slice line number = .ok cut ↔
    CutsOut line column.start (column.start + column.length) cut := by
  rw [← bytes?_eq_some_iff (Nat.le_add_right ..), slice, stop]
  cases bytes? line column.start (column.start + column.length) with
  | none =>
      constructor
      · intro cuts
        cases cuts
      · intro found
        cases found
  | some other => simp

theorem slice_of_unfit (unfit : ¬ Fits line column.start (column.start + column.length)) :
    column.slice line number = .error (.outOfBounds column.conversion.field column.start
      (column.start + column.length) number (Utf8.encode line).length) := by
  rw [slice, stop, (bytes?_eq_none_iff (Nat.le_add_right ..)).2 unfit, Utf8.size_eq]

theorem read_of_cuts {cut : List Char}
    (cuts : CutsOut line column.start (column.start + column.length) cut) :
    column.read line number = column.conversion.convert (String.ofList (trimChars cut)) := by
  rw [read, slice_eq_ok.2 cuts, Outcome.ok_bind]

theorem read_of_unfit (unfit : ¬ Fits line column.start (column.start + column.length)) :
    column.read line number = .error (.outOfBounds column.conversion.field column.start
      (column.start + column.length) number (Utf8.encode line).length) := by
  rw [read, slice_of_unfit unfit]
  rfl

theorem gives_iff {outcome : Outcome Value} :
    column.Gives line number outcome ↔ column.read line number = outcome := by
  constructor
  · intro gives
    cases gives with
    | converted cuts converts => rw [read_of_cuts cuts, converts]
    | refused cuts refuses => rw [read_of_cuts cuts, refuses]
    | outside unfit => exact read_of_unfit unfit
  · rintro rfl
    by_cases fits : Fits line column.start (column.start + column.length)
    · obtain ⟨cut, found⟩ := fits.exists_bytes? (Nat.le_add_right ..)
      have cuts := (bytes?_eq_some_iff (Nat.le_add_right ..)).1 found
      rw [read_of_cuts cuts]
      cases converts : column.conversion.convert (String.ofList (trimChars cut)) with
      | ok value => exact .converted cuts converts
      | error failure => exact .refused cuts converts
    · rw [read_of_unfit fits]
      exact .outside fits

/-- The end of an accepted column is a number of 64 bits. -/
theorem end_of_accepted {members : Settings} (accepted : ofSettings members = .ok column) :
    column.start + column.length ≤ Settings.sizeMax := by
  obtain ⟨start, _, accepted⟩ := Outcome.bind_eq_ok.1 accepted
  obtain ⟨length, _, accepted⟩ := Outcome.bind_eq_ok.1 accepted
  split at accepted
  · cases accepted
  · next inRange =>
      obtain ⟨conversion, _, accepted⟩ := Outcome.bind_eq_ok.1 accepted
      obtain rfl := Except.ok.inj accepted
      exact Nat.le_of_not_lt inRange

end FixedWidthColumn

namespace FixedWidthFormat

variable {format : FixedWidthFormat} {line : List Char} {number : Nat}

/-! ## Accepted settings -/

theorem columns_of_accepted {settings : Settings} (accepted : ofSettings settings = .ok format) :
    ∃ items, settings.requiredList "columns" = .ok items ∧
      List.Forall₂ (fun item column => ∃ members, item = .object members ∧
        FixedWidthColumn.ofSettings members = .ok column) items format.columns := by
  obtain ⟨hasHeader, _, accepted⟩ := Outcome.bind_eq_ok.1 accepted
  obtain ⟨columns, read, accepted⟩ := Outcome.bind_eq_ok.1 accepted
  obtain ⟨items, listed, read⟩ := Outcome.bind_eq_ok.1 read
  obtain rfl := Except.ok.inj accepted
  exact ⟨items, listed, readItems_forall₂ read⟩

theorem ends_of_accepted {settings : Settings} (accepted : ofSettings settings = .ok format) :
    ∀ column ∈ format.columns, column.start + column.length ≤ Settings.sizeMax := by
  obtain ⟨items, _, each⟩ := columns_of_accepted accepted
  intro column member
  obtain ⟨members, accepted⟩ := exists_settings_of_mem each member
  exact FixedWidthColumn.end_of_accepted accepted

/-! ## Reading a line -/

def outcomes (format : FixedWidthFormat) (line : List Char) (number : Nat) :
    List (Outcome (String × Value)) :=
  format.columns.map fun column =>
    (column.read line number).map fun value => (column.conversion.field, value)

theorem readColumns_eq (columns : List FixedWidthColumn) (record : Record) :
    readColumns line number columns record =
      (Outcome.gather (columns.map fun column =>
        (column.read line number).map fun value => (column.conversion.field, value))).map
          fun given => given.foldl (fun record pair => record.set pair.1 pair.2) record := by
  induction columns generalizing record with
  | nil => rfl
  | cons column rest ih =>
      rw [readColumns, List.map_cons, Outcome.gather, FixedWidthColumn.read]
      cases column.slice line number with
      | error failure => rfl
      | ok cut =>
          simp only [Outcome.ok_bind]
          cases column.conversion.convert (String.ofList (trimChars cut)) with
          | error failure => rfl
          | ok value =>
              rw [Except.map, Outcome.ok_bind, Outcome.ok_bind, ih]
              cases Outcome.gather (rest.map fun column =>
                (column.read line number).map fun value => (column.conversion.field, value)) <;> rfl

theorem readLine_eq : format.readLine line number =
    (Outcome.gather (format.outcomes line number)).map .ofPairs := readColumns_eq _ _

theorem readLine_eq_ok {record : Record} : format.readLine line number = .ok record ↔
    ∃ given, format.outcomes line number = given.map .ok ∧ record = .ofPairs given := by
  simp only [readLine_eq, Outcome.map_eq_ok, Outcome.gather_eq_ok, eq_comm (b := record)]

theorem outcome_eq_ok {column : FixedWidthColumn} {name : String} {value : Value} :
    (column.read line number).map (fun value => (column.conversion.field, value)) =
        .ok (name, value) ↔
      column.conversion.field = name ∧ column.Gives line number (.ok value) := by
  rw [Outcome.map_eq_ok, FixedWidthColumn.gives_iff]
  constructor
  · rintro ⟨result, reads, same⟩
    cases same
    exact ⟨rfl, reads⟩
  · rintro ⟨rfl, reads⟩
    exact ⟨value, reads, rfl⟩

theorem outcome_eq_error {column : FixedWidthColumn} {failure : Failure} :
    (column.read line number).map (fun value => (column.conversion.field, value)) =
        .error failure ↔
      column.Gives line number (.error failure) := by
  rw [FixedWidthColumn.gives_iff]
  cases column.read line number with
  | error met => simp [Except.map]
  | ok value => simp [Except.map]

/-- A line can be read if each column makes a value of it. -/
theorem exists_readLine_iff : (∃ record, format.readLine line number = .ok record) ↔
    ∀ column ∈ format.columns, ∃ value, column.Gives line number (.ok value) := by
  have gathers : (∃ record, format.readLine line number = .ok record) ↔
      ∃ given, Outcome.gather (format.outcomes line number) = .ok given := by
    simp only [readLine_eq, Outcome.map_eq_ok]
    constructor
    · rintro ⟨_, given, gathers, _⟩
      exact ⟨given, gathers⟩
    · rintro ⟨given, gathers⟩
      exact ⟨_, given, gathers, rfl⟩
  rw [gathers, Outcome.exists_gather_iff, outcomes, List.forall_mem_map]
  refine forall₂_congr fun column _ => ?_
  constructor
  · rintro ⟨⟨name, value⟩, reads⟩
    exact ⟨value, (outcome_eq_ok.1 reads).2⟩
  · rintro ⟨value, gives⟩
    exact ⟨_, outcome_eq_ok.2 ⟨rfl, gives⟩⟩

/-- The first column at fault decides. -/
theorem readLine_eq_error {failure : Failure} : format.readLine line number = .error failure ↔
    ∃ (position : Nat) (column : FixedWidthColumn), format.columns[position]? = some column ∧
      column.Gives line number (.error failure) ∧
        ∀ earlier < position, ∀ other, format.columns[earlier]? = some other →
          ∃ value, other.Gives line number (.ok value) := by
  have gathers : format.readLine line number = .error failure ↔
      Outcome.gather (format.outcomes line number) = .error failure := by
    rw [readLine_eq]
    cases Outcome.gather (format.outcomes line number) <;> simp [Except.map]
  rw [gathers, Outcome.gather_eq_error]
  simp only [outcomes, List.getElem?_map, Option.map_eq_some_iff]
  constructor
  · rintro ⟨position, ⟨column, stands, fails⟩, passed⟩
    refine ⟨position, column, stands, outcome_eq_error.1 fails, ?_⟩
    intro earlier less other standsToo
    obtain ⟨⟨name, value⟩, same, found, reads⟩ := passed earlier less
    obtain rfl := Option.some.inj (found.symm.trans standsToo)
    exact ⟨value, (outcome_eq_ok.1 reads).2⟩
  · rintro ⟨position, column, stands, fails, passed⟩
    refine ⟨position, ⟨column, stands, outcome_eq_error.2 fails⟩, ?_⟩
    intro earlier less
    have within : earlier < format.columns.length :=
      Nat.lt_trans less (List.getElem?_eq_some_iff.1 stands).1
    have found := List.getElem?_eq_getElem within
    obtain ⟨value, gives⟩ := passed earlier less _ found
    exact ⟨_, _, found, outcome_eq_ok.2 ⟨rfl, gives⟩⟩

/-- The record of a line holds under each name what the last column of that name makes of it. -/
theorem readLine_collects {record : Record} (reads : format.readLine line number = .ok record) :
    DelimitedFormat.Collects (fun position name value => ∃ column,
      format.columns[position]? = some column ∧ column.conversion.field = name ∧
        column.Gives line number (.ok value)) record := by
  obtain ⟨given, each, rfl⟩ := readLine_eq_ok.1 reads
  have found : ∀ (position : Nat) (name : String) (value : Value),
      (∃ column, format.columns[position]? = some column ∧ column.conversion.field = name ∧
        column.Gives line number (.ok value)) ↔
      (given.map some)[position]? = some (some (name, value)) := by
    intro position name value
    have stands : (format.outcomes line number)[position]? = some (.ok (name, value)) ↔
        given[position]? = some (name, value) := by
      simp [each]
    rw [List.getElem?_map, Option.map_eq_some_iff]
    simp only [Option.some.injEq, exists_eq_right]
    rw [← stands, outcomes, List.getElem?_map, Option.map_eq_some_iff]
    simp only [outcome_eq_ok]
  have whole : (given.map some).reduceOption = given := by
    simp [List.reduceOption]
  have collects := DelimitedFormat.collects_ofPairs (given.map some)
  rw [whole] at collects
  simpa only [found] using collects

/-- Whatever settings are accepted, the end of no column is out of the range of numbers.  A line
can be read exactly if the bytes of every column can be cut out of it and what they say can be
converted; its record then holds what the last column of each name makes of it; and reading fails
exactly with the failure of the first column that has one. -/
theorem columns_cut_exactly {settings : Settings} (accepted : ofSettings settings = .ok format)
    (line : List Char) (number : Nat) :
    (∀ column ∈ format.columns, column.start + column.length ≤ Settings.sizeMax) ∧
    ((∃ record, format.readLine line number = .ok record) ↔
      ∀ column ∈ format.columns, ∃ cut value,
        CutsOut line column.start (column.start + column.length) cut ∧
          column.conversion.convert (String.ofList (trimChars cut)) = .ok value) ∧
    (∀ record, format.readLine line number = .ok record →
      DelimitedFormat.Collects (fun position name value => ∃ column,
        format.columns[position]? = some column ∧ column.conversion.field = name ∧
          column.Gives line number (.ok value)) record) ∧
    ∀ failure, format.readLine line number = .error failure ↔
      ∃ (position : Nat) (column : FixedWidthColumn), format.columns[position]? = some column ∧
        column.Gives line number (.error failure) ∧
          ∀ earlier < position, ∀ other, format.columns[earlier]? = some other →
            ∃ value, other.Gives line number (.ok value) := by
  refine ⟨ends_of_accepted accepted, ?_, fun record => readLine_collects, fun failure =>
    readLine_eq_error⟩
  rw [exists_readLine_iff]
  refine forall₂_congr fun column _ => ?_
  constructor
  · rintro ⟨value, gives⟩
    cases gives with
    | converted cuts converts => exact ⟨_, value, cuts, converts⟩
  · rintro ⟨cut, value, cuts, converts⟩
    exact ⟨value, .converted cuts converts⟩

/-- Two columns of one name overlap behind a character of two bytes.  In a second line that
character stands where the second column begins, so its bytes cannot be cut out. -/
theorem columns_cut_exactly_overlapping :
    let column (start : Int) (datatype : String) : Json := .object [("datatype", .text datatype),
      ("fieldName", .text "n"), ("length", .int 3), ("start", .int start)]
    let settings : Settings := [("columns", .list [column 0 "string", column 2 "integer"])]
    ∃ format, ofSettings settings = .ok format ∧
      (∃ record, format.readLine "é 12".toList 1 = .ok record ∧ record.fields = [("n", .int 12)] ∧
        ∃ (position : Nat) (taken : FixedWidthColumn), format.columns[position]? = some taken ∧
          taken.Gives "é 12".toList 1 (.ok (.int 12))) ∧
      ∃ (position : Nat) (taken : FixedWidthColumn), format.columns[position]? = some taken ∧
        taken.Gives "1é23".toList 7 (.error (.outOfBounds "n" 2 5 7 5)) := by
  intro column settings
  have accepted : ofSettings settings = .ok _ := rfl
  refine ⟨_, accepted, ?_⟩
  obtain ⟨_, _, collects, _⟩ := columns_cut_exactly accepted "é 12".toList 1
  obtain ⟨_, _, _, fails⟩ := columns_cut_exactly accepted "1é23".toList 7
  obtain ⟨position, ⟨taken, stands, _, gives⟩, _⟩ :=
    ((collects (.ofPairs [("n", .int 12)]) rfl).last "n" (.int 12)).1 rfl
  obtain ⟨other, unfit, standsToo, refuses, _⟩ := (fails _).1 rfl
  exact ⟨⟨_, rfl, rfl, position, taken, stands, gives⟩, other, unfit, standsToo, refuses⟩

/-! ## Bytes in the columns -/

def Covers (format : FixedWidthFormat) (place : Nat) : Prop :=
  ∃ column ∈ format.columns, column.start ≤ place ∧ place < column.start + column.length

/-- The columns are not empty, and both lines reach to the ends of all of them and have the same
bytes in them. -/
structure Alike (format : FixedWidthFormat) (one two : List Char) : Prop where
  positive : ∀ column ∈ format.columns, 0 < column.length
  reachesOne : ∀ column ∈ format.columns, column.start + column.length ≤ (Utf8.encode one).length
  reachesTwo : ∀ column ∈ format.columns, column.start + column.length ≤ (Utf8.encode two).length
  same : ∀ place, format.Covers place → (Utf8.encode one)[place]? = (Utf8.encode two)[place]?

variable {one two : List Char}

theorem Alike.symm (alike : format.Alike one two) : format.Alike two one :=
  ⟨alike.positive, alike.reachesTwo, alike.reachesOne, fun place covers =>
    (alike.same place covers).symm⟩

theorem Alike.gives (alike : format.Alike one two) {column : FixedWidthColumn}
    (member : column ∈ format.columns) {value : Value} (numberTwo : Nat)
    (gives : column.Gives one number (.ok value)) : column.Gives two numberTwo (.ok value) := by
  have same : SameBytes one two column.start (column.start + column.length) :=
    fun place least below => alike.same place ⟨column, member, least, below⟩
  have ordered : column.start ≤ column.start + column.length := Nat.le_add_right ..
  cases gives with
  | converted cuts converts =>
      have positive := alike.positive column member
      have found := bytes?_alike (by omega) (alike.reachesTwo column member) same
        ((bytes?_eq_some_iff ordered).2 cuts)
      exact .converted ((bytes?_eq_some_iff ordered).1 found) converts

theorem Alike.readLine (alike : format.Alike one two) {record : Record} (numberTwo : Nat)
    (reads : format.readLine one number = .ok record) :
    format.readLine two numberTwo = .ok record := by
  obtain ⟨given, each, rfl⟩ := readLine_eq_ok.1 reads
  have givesAll := exists_readLine_iff.1 ⟨_, reads⟩
  have outcomes : format.outcomes two numberTwo = format.outcomes one number := by
    refine List.map_congr_left fun column member => ?_
    obtain ⟨value, gives⟩ := givesAll column member
    rw [FixedWidthColumn.gives_iff.1 gives,
      FixedWidthColumn.gives_iff.1 (alike.gives member numberTwo gives)]
  exact readLine_eq_ok.2 ⟨given, outcomes.trans each, rfl⟩

/-- Two lines that have the same bytes in columns of some length come to the same record, if either
of them comes to one: whether a character ends where a column ends is decided by the bytes in it. -/
theorem bytes_outside_irrelevant (alike : format.Alike one two) (numberOne numberTwo : Nat)
    (record : Record) : format.readLine one numberOne = .ok record ↔
      format.readLine two numberTwo = .ok record :=
  ⟨alike.readLine numberTwo, alike.symm.readLine numberOne⟩

/-- Behind the column stands a character of one byte in the first line and one of three bytes in the
second line. -/
theorem bytes_outside_irrelevant_wide :
    let format : FixedWidthFormat := ⟨false, [⟨1, 2, ⟨.text, "", "a"⟩⟩]⟩
    format.Alike "xéy".toList "zé€".toList ∧
      format.readLine "zé€".toList 2 = .ok (.ofPairs [("a", .text "é")]) := by
  intro format
  have alike : format.Alike "xéy".toList "zé€".toList := by
    refine ⟨by decide, by decide, by decide, ?_⟩
    rintro place ⟨column, member, least, below⟩
    obtain rfl := List.mem_singleton.1 member
    obtain rfl | rfl : place = 1 ∨ place = 2 := by
      dsimp only at least below
      omega
    · rfl
    · rfl
  exact ⟨alike, (bytes_outside_irrelevant alike 1 2 _).1 rfl⟩

end FixedWidthFormat

end Sluice
