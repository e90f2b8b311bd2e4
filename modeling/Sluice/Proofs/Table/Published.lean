import Sluice.Proofs.Table.Kept
import Sluice.Proofs.Table.Whole

/-!
# The published table

On memory, the writer of delimited text publishes one file with the rows of all its records, and a
reader of tables puts the records of a file out on the default port.
-/

set_option autoImplicit false

namespace Sluice

open Run

namespace DelimitedLayout

theorem rowsOf_records (layout : DelimitedLayout) (records : List Record) :
    layout.rowsOf (records.map .record) = records.map layout.cells := by
  rw [rowsOf, List.filterMap_map]
  exact congrFun (List.filterMap_eq_map (f := layout.cells)) records

/-- Records are written to one file, each as a row below the header. -/
theorem publishes (layout : DelimitedLayout) (policy : Settings.EntryPolicy)
    (records : List Record) (disk : Disk) :
    let written := perform (.ok (layout.stage policy)) (.onMemory (records.map .record) disk)
    written.1 = .ok () ∧ written.2.output.files defaultPort =
      [⟨layout.filename, Rows.rowsBytes layout.delimiter
        (layout.headerRows ++ records.map layout.cells)⟩] := by
  have kept :=
    perform_keeps FaultPlan.none_acceptsFiles layout policy (records.map .record) disk
  dsimp only
  rw [Session.onMemory]
  rcases performed : perform (.ok (layout.stage policy))
    (.on (Session.inputsOf (records.map .record)) disk .none) with ⟨outcome, final⟩
  rw [performed] at kept
  obtain ⟨_, files, stops⟩ := kept
  have ends : outcome = .ok () ∧
      (records.map Entry.record).take final.takings = records.map .record := by
    cases stops with
    | finished all _ => exact ⟨rfl, all⟩
    | @aborted earlier file last _ _ =>
        have member : .file file ∈ (records.map Entry.record).take final.takings := by
          rw [last]
          simp
        simpa using List.mem_of_mem_take member
    | refused _ planned _ _ => cases planned
  refine ⟨ends.1, ?_⟩
  dsimp only
  rw [Output.files, files, ends.2, rowsOf_records]
  rfl

end DelimitedLayout

/-! ## Reading tables -/

/-- The records that a file is read as come out on the default port. -/
theorem puts_table_out (policy : Settings.EntryPolicy)
    {readFile : String → Delivery → Outcome (List Record)} {name : String} {bytes : Bytes}
    {records : List Record} (reads : readFile name ⟨bytes, none⟩ = .ok records) (disk : Disk) :
    let parsed := perform (.ok (.handling policy (handleTable readFile)))
      (.onMemory [.file (.ofBytes name bytes)] disk)
    parsed.1 = .ok () ∧ parsed.2.output.records defaultPort = records := by
  obtain ⟨led, opened, log, outcome, after, runs⟩ :=
    ((HandlesAlone.ofTables readFile).steady policy).runs [.file (.ofBytes name bytes)] disk
  obtain ⟨begins, ends⟩ := runs.handling_output
  have handled : outcome = .ok () ∧ opened.output.Gains
      (records.map fun record => (record, defaultPort)) after.output := by
    have drained := runs.drained
    have handles := runs.handles
    have first : ∀ {taken middle : Session} {result : Outcome Unit}, opened.Alike taken →
        handleTable readFile (.file (.ofBytes name bytes)) taken = (result, middle) →
          result = .ok () ∧ opened.output.Gains
            (records.map fun record => (record, defaultPort)) middle.output := by
      intro taken middle result alike acts
      have written : handleTable readFile (.file (.ofBytes name bytes)) taken =
          writeRecords defaultPort records taken := by
        show (ofOutcome (readFile name ⟨bytes, none⟩) >>= writeRecords defaultPort) taken = _
        rw [reads]
        rfl
      have accepts : taken.plan.Accepts := alike.other ▸ FaultPlan.none_accepts
      have isOpen : taken.output.closes = 0 := by
        rw [← alike.output, begins]
        rfl
      obtain ⟨last, writes, gains, _⟩ := writeRecords_accepted accepts isOpen defaultPort records
      obtain ⟨rfl, rfl⟩ := Prod.mk.inj (acts.symm.trans (written.trans writes))
      rw [alike.output]
      exact ⟨rfl, gains⟩
    cases drained with
    | goesOn _ _ rest =>
        cases rest
        cases handles with | entry takes acts none =>
        cases none
        exact ⟨rfl, (first (next_alike runs.offers.memory takes) acts).2⟩
    | stops _ _ _ =>
        cases handles with | entry takes acts none =>
        cases (first (next_alike runs.offers.memory takes) acts).1
  obtain ⟨rfl, gains⟩ := handled
  dsimp only
  refine ⟨runs.outcome_eq, ?_⟩
  rw [begins] at gains
  rw [ends]
  exact gains.onPort

end Sluice
