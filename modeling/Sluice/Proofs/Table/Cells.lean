import Mathlib.Data.List.ReduceOption
import Sluice.Proofs.Outcome
import Sluice.Proofs.Record
import Sluice.Table.Delimited

/-!
# Rows cell by cell

A cell gives its record a named value, or nothing where it is skipped, and what it gives depends on
no other cell of the row.  A row comes to the record of all that its cells give, one after the
other, or else to the failure of its first cell that has one.
-/

set_option autoImplicit false

namespace Sluice

namespace DelimitedFormat

variable {format : DelimitedFormat} {header : Option (List String)}

def headerAt (header : Option (List String)) (position : Nat) : Option String :=
  header.bind fun names => names[position]?

/-- What a cell gives its record: a value and its name, or nothing. -/
def readCell (format : DelimitedFormat) (header : Option (List String)) (position : Nat)
    (cell : String) : Outcome (Option (String × Value)) := do
  match ← format.resolve position (headerAt header position) with
  | none => .ok none
  | some conversion => .ok (some (conversion.field, ← conversion.convert cell))

section Resolved

variable {position : Nat} {cell : String}

theorem readCell_of_converted {conversion : Conversion}
    (resolved : format.resolve position (headerAt header position) = .ok (some conversion)) :
    format.readCell header position cell =
      (conversion.convert cell).map fun value => some (conversion.field, value) := by
  rw [readCell, resolved, Outcome.ok_bind]
  dsimp only
  cases conversion.convert cell <;> rfl

theorem readCell_of_skipped
    (resolved : format.resolve position (headerAt header position) = .ok none) :
    format.readCell header position cell = .ok none := by
  rw [readCell, resolved]
  rfl

theorem readCell_of_refused {failure : Failure}
    (resolved : format.resolve position (headerAt header position) = .error failure) :
    format.readCell header position cell = .error failure := by
  rw [readCell, resolved]
  rfl

end Resolved

def cellOutcomes (format : DelimitedFormat) (header : Option (List String)) (row : List String) :
    List (Outcome (Option (String × Value))) :=
  row.mapIdx fun position cell => format.readCell header position cell

theorem readCells_cons (position : Nat) (cell : String) (rest : List String) (record : Record) :
    format.readCells header position (cell :: rest) record = (do
      let given ← format.readCell header position cell
      format.readCells header (position + 1) rest
        (given.elim record fun pair => record.set pair.1 pair.2)) := by
  rw [readCells, readCell, headerAt]
  rcases format.resolve position (header.bind fun names => names[position]?) with
    failure | _ | conversion
  · rfl
  · rfl
  · simp only [Outcome.ok_bind]
    cases conversion.convert cell <;> rfl

theorem readCells_eq (position : Nat) (cells : List String) (record : Record) :
    format.readCells header position cells record =
      (Outcome.gather (cells.mapIdx fun offset cell =>
        format.readCell header (position + offset) cell)).map fun given =>
          given.reduceOption.foldl (fun record pair => record.set pair.1 pair.2) record := by
  induction cells generalizing position record with
  | nil => rfl
  | cons cell rest ih =>
      -- The offsets in the rest count from the next position.
      have moved : (fun offset cell => format.readCell header (position + (offset + 1)) cell) =
          fun offset cell => format.readCell header (position + 1 + offset) cell := by
        funext offset cell
        rw [Nat.add_assoc, Nat.add_comm 1]
      rw [readCells_cons, List.mapIdx_cons, Outcome.gather, Nat.add_zero, moved]
      rcases format.readCell header position cell with failure | given
      · rfl
      · rw [Outcome.ok_bind, Outcome.ok_bind, ih]
        cases Outcome.gather (rest.mapIdx fun offset cell =>
            format.readCell header (position + 1 + offset) cell) with
        | error failure => rfl
        | ok others => cases given <;> rfl

theorem readRow_eq (row : List String) :
    format.readRow header row = (Outcome.gather (format.cellOutcomes header row)).map fun given =>
      .ofPairs given.reduceOption := by
  rw [readRow, readCells_eq, cellOutcomes]
  simp only [Nat.zero_add, Record.ofPairs]

theorem readRow_eq_ok {row : List String} {record : Record} :
    format.readRow header row = .ok record ↔ ∃ given : List (Option (String × Value)),
      format.cellOutcomes header row = given.map .ok ∧ record = .ofPairs given.reduceOption := by
  rw [readRow_eq]
  cases gathers : Outcome.gather (format.cellOutcomes header row) with
  | error failure =>
      refine ⟨nofun, fun ⟨given, each, _⟩ => ?_⟩
      rw [Outcome.gather_eq_ok.2 each] at gathers
      cases gathers
  | ok given =>
      rw [Outcome.gather_eq_ok] at gathers
      constructor
      · intro same
        exact ⟨given, gathers, (Except.ok.inj same).symm⟩
      · rintro ⟨others, each, rfl⟩
        rw [gathers] at each
        rw [List.map_injective_iff.2 (fun _ _ => Except.ok.inj) each]
        rfl

/-- The first cell at fault decides. -/
theorem readRow_eq_error {row : List String} {failure : Failure} :
    format.readRow header row = .error failure ↔ ∃ position : Nat,
      (format.cellOutcomes header row)[position]? = some (.error failure) ∧
        ∀ earlier < position, ∃ given,
          (format.cellOutcomes header row)[earlier]? = some (.ok given) := by
  rw [readRow_eq, ← Outcome.gather_eq_error]
  cases Outcome.gather (format.cellOutcomes header row) with
  | error met => exact ⟨fun same => congrArg _ (Except.error.inj same), fun same =>
      congrArg _ (Except.error.inj same)⟩
  | ok given => exact ⟨nofun, nofun⟩

theorem getElem?_cellOutcomes (row : List String) (position : Nat) :
    (format.cellOutcomes header row)[position]? =
      row[position]?.map (format.readCell header position) := by
  rw [cellOutcomes, List.getElem?_mapIdx]

theorem length_cellOutcomes (row : List String) :
    (format.cellOutcomes header row).length = row.length := List.length_mapIdx ..

theorem exists_readRow_iff_mem {row : List String} :
    (∃ record, format.readRow header row = .ok record) ↔
      ∀ outcome ∈ format.cellOutcomes header row, ∃ given, outcome = .ok given := by
  rw [← Outcome.exists_gather_iff]
  constructor
  · rintro ⟨record, reads⟩
    obtain ⟨given, each, _⟩ := readRow_eq_ok.1 reads
    exact ⟨given, Outcome.gather_eq_ok.2 each⟩
  · rintro ⟨given, gathers⟩
    exact ⟨_, readRow_eq_ok.2 ⟨given, Outcome.gather_eq_ok.1 gathers, rfl⟩⟩

/-- A row can be read if each cell of it can be. -/
theorem exists_readRow_iff {row : List String} :
    (∃ record, format.readRow header row = .ok record) ↔
      ∀ position < row.length, ∃ given,
        (format.cellOutcomes header row)[position]? = some (.ok given) := by
  rw [exists_readRow_iff_mem, ← length_cellOutcomes]
  constructor
  · intro each position within
    obtain ⟨given, same⟩ := each _ (List.getElem_mem within)
    exact ⟨given, by rw [List.getElem?_eq_getElem within, same]⟩
  · intro each outcome member
    obtain ⟨position, within, rfl⟩ := List.mem_iff_getElem.1 member
    obtain ⟨given, stands⟩ := each position within
    exact ⟨given, Option.some.inj ((List.getElem?_eq_getElem within).symm.trans stands)⟩

/-! ## What a record holds -/

/-- Under each name the record holds the value that is given last, and its names stand in the order
in which they are first given. -/
structure Collects (gives : Nat → String → Value → Prop) (record : Record) : Prop where
  last : ∀ name value, record.get? name = some value ↔
    ∃ position, gives position name value ∧
      ∀ later other, position < later → ¬ gives later name other
  ordered : record.names.Pairwise fun first second =>
    ∃ position value, gives position first value ∧
      ∀ earlier ≤ position, ∀ other, ¬ gives earlier second other

theorem reduceOption_divides {α : Type} {given : List (Option α)} {before after : List α} {item : α}
    (divides : given.reduceOption = before ++ item :: after) :
    ∃ earlier later, given = earlier ++ some item :: later ∧ earlier.reduceOption = before ∧
      later.reduceOption = after := by
  obtain ⟨first, second, rfl, rfl, rest⟩ := (List.reduceOption_eq_append_iff ..).1 divides
  obtain ⟨skipped, found, later, rfl, nothing, isItem, rfl⟩ := List.filterMap_eq_cons_iff.1 rest
  obtain rfl : found = some item := isItem
  have empty : skipped.reduceOption = [] := List.filterMap_eq_nil_iff.2 nothing
  exact ⟨first ++ skipped, later, by simp, by rw [List.reduceOption_append, empty, List.append_nil],
    rfl⟩

theorem collects_ofPairs (given : List (Option (String × Value))) :
    Collects (fun position name value => given[position]? = some (some (name, value)))
      (.ofPairs given.reduceOption) where
  last name value := by
    rw [Record.get?_ofPairs_eq_some]
    constructor
    · rintro ⟨before, after, divides, fresh⟩
      obtain ⟨earlier, later, rfl, rfl, rfl⟩ := reduceOption_divides divides
      refine ⟨earlier.length, by simp, fun position other past gives => fresh ?_⟩
      have given : some (name, other) ∈ later := by
        obtain ⟨offset, rfl⟩ := Nat.exists_eq_add_of_lt past
        rw [Nat.add_assoc, List.getElem?_append_right (Nat.le_add_right ..),
          Nat.add_sub_cancel_left, List.getElem?_cons_succ] at gives
        exact List.mem_of_getElem? gives
      exact List.mem_map.2 ⟨_, List.reduceOption_mem_iff.2 given, rfl⟩
    · rintro ⟨position, gives, last⟩
      obtain ⟨within, stands⟩ := List.getElem?_eq_some_iff.1 gives
      refine ⟨(given.take position).reduceOption, (given.drop (position + 1)).reduceOption, ?_, ?_⟩
      · rw [← List.reduceOption_cons_of_some, ← List.reduceOption_append, ← stands,
          List.getElem_cons_drop, List.take_append_drop]
      · intro member
        obtain ⟨⟨_, other⟩, given, rfl⟩ := List.mem_map.1 member
        obtain ⟨offset, stands⟩ := List.mem_iff_getElem?.1 (List.reduceOption_mem_iff.1 given)
        rw [List.getElem?_drop] at stands
        exact last _ other (by omega) stands
  ordered := by
    refine (Record.names_ofPairs_ordered given.reduceOption).imp fun comes => ?_
    obtain ⟨before, after, value, divides, apart, fresh⟩ := comes
    obtain ⟨earlier, later, rfl, rfl, rfl⟩ := reduceOption_divides divides
    refine ⟨earlier.length, value, by simp, fun position least other gives => ?_⟩
    rcases Nat.lt_or_eq_of_le least with before | rfl
    · rw [List.getElem?_append_left before] at gives
      have given := List.reduceOption_mem_iff.2 (List.mem_of_getElem? gives)
      exact fresh (List.mem_map.2 ⟨_, given, rfl⟩)
    · simp [apart] at gives

/-- No name is given twice if whatever is given under one name is given at one position. -/
theorem nodup_names_iff {given : List (Option (String × Value))} :
    (given.reduceOption.map Prod.fst).Nodup ↔
      ∀ (one two : Nat) (name : String) (value other : Value),
        given[one]? = some (some (name, value)) → given[two]? = some (some (name, other)) →
          one = two := by
  have names : given.reduceOption.map Prod.fst = given.filterMap (Option.map Prod.fst) := by
    rw [List.reduceOption, List.map_filterMap]
    rfl
  -- Pairwise speaks of what comes before and after, whereas the positions come in either order.
  rw [names, List.Nodup, List.pairwise_filterMap, List.pairwise_iff_getElem]
  constructor
  · intro apart one two name value other first second
    have never : ∀ {one two : Nat} {value other : Value}, one < two →
        given[one]? = some (some (name, value)) → given[two]? ≠ some (some (name, other)) := by
      intro one two value other less first second
      obtain ⟨inOne, first⟩ := List.getElem?_eq_some_iff.1 first
      obtain ⟨inTwo, second⟩ := List.getElem?_eq_some_iff.1 second
      exact apart one two inOne inTwo less name (by rw [first]; rfl) name (by rw [second]; rfl) rfl
    rcases Nat.lt_trichotomy one two with less | same | less
    · exact (never less first second).elim
    · exact same
    · exact (never less second first).elim
  · intro once one two inOne inTwo less first namesFirst second namesSecond
    obtain ⟨⟨name, value⟩, standsFirst, rfl⟩ := Option.map_eq_some_iff.1 namesFirst
    obtain ⟨⟨same, other⟩, standsSecond, rfl⟩ := Option.map_eq_some_iff.1 namesSecond
    rintro rfl
    have equal := once one two _ value other (List.getElem?_eq_some_iff.2 ⟨inOne, standsFirst⟩)
      (List.getElem?_eq_some_iff.2 ⟨inTwo, standsSecond⟩)
    exact Nat.ne_of_lt less equal

/-- The names of a row's record are those that its cells give. -/
theorem mem_names_iff_given {row : List String} {record : Record}
    (reads : format.readRow header row = .ok record) (name : String) :
    name ∈ record.names ↔ ∃ (position : Nat) (value : Value),
      (format.cellOutcomes header row)[position]? = some (.ok (some (name, value))) := by
  obtain ⟨given, each, rfl⟩ := readRow_eq_ok.1 reads
  rw [Record.mem_names_ofPairs, List.mem_map, each]
  simp only [List.getElem?_map]
  constructor
  · rintro ⟨⟨_, value⟩, member, rfl⟩
    obtain ⟨position, stands⟩ := List.mem_iff_getElem?.1 (List.reduceOption_mem_iff.1 member)
    exact ⟨position, value, by rw [stands]; rfl⟩
  · rintro ⟨position, value, stands⟩
    obtain ⟨_, stands, same⟩ := Option.map_eq_some_iff.1 stands
    obtain rfl := Except.ok.inj same
    exact ⟨_, List.reduceOption_mem_iff.2 (List.mem_of_getElem? stands), rfl⟩

/-- The record of a row holds what stands last under each name. -/
theorem readRow_collects {row : List String} {record : Record}
    (reads : format.readRow header row = .ok record) :
    Collects (fun position name value =>
      (format.cellOutcomes header row)[position]? = some (.ok (some (name, value)))) record := by
  obtain ⟨given, each, rfl⟩ := readRow_eq_ok.1 reads
  have found : ∀ (position : Nat) (outcome : Option (String × Value)),
      (format.cellOutcomes header row)[position]? = some (.ok outcome) ↔
        given[position]? = some outcome := by
    simp [each]
  simp only [found]
  exact collects_ofPairs given

end DelimitedFormat

end Sluice
