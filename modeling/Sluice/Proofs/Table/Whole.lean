import Sluice.Proofs.Flow.Output
import Sluice.Proofs.Steady
import Sluice.Proofs.Table.Reading

/-!
# Tables come out whole

A function that reads tables puts out the records of a file once it has read all of them.  A file
that is no table leaves nothing behind, whichever of its rows is at fault, and it has no influence
on the files before and after it.
-/

set_option autoImplicit false

namespace Sluice

open Run

/-! ## Functions that read tables -/

structure TableReading where
  readFile : String → Delivery → Outcome (List Record)
  Tabulates : Delivery → List Record → Prop
  readFile_eq_ok : ∀ {file : String} {delivery : Delivery} {records : List Record},
    readFile file delivery = .ok records ↔ Tabulates delivery records

def DelimitedFormat.reading (format : DelimitedFormat) : TableReading :=
  ⟨format.readFile, format.Tabulates, format.readFile_eq_ok⟩

def FixedWidthFormat.reading (format : FixedWidthFormat) : TableReading :=
  ⟨fun _ => format.readFile, format.Tabulates, format.readFile_eq_ok⟩

inductive TableFunction : BuiltinFunction → Settings → TableReading → Prop where
  | delimited {settings : Settings} {format : DelimitedFormat}
      (read : DelimitedFormat.ofSettings settings = .ok format) :
      TableFunction parseDelimited settings format.reading
  | fixedWidth {settings : Settings} {format : FixedWidthFormat}
      (read : FixedWidthFormat.ofSettings settings = .ok format) :
      TableFunction parseFixedWidth settings format.reading

theorem TableFunction.settled {function : BuiltinFunction} {settings : Settings}
    {reading : TableReading} (reads : TableFunction function settings reading)
    {policy : Settings.EntryPolicy} (known : settings.entryPolicy = .ok policy) :
    function.settle settings = .ok (.handling policy (handleTable reading.readFile)) := by
  cases reads with
  | delimited read => exact DelimitedFormat.settle_eq_ok.2 ⟨_, policy, read, known, rfl⟩
  | fixedWidth read => exact FixedWidthFormat.settle_eq_ok.2 ⟨_, policy, read, known, rfl⟩

namespace TableReading

variable (reading : TableReading) (disk : Disk)

inductive Reads : Entry → Outcome (List Record) → Prop where
  | table (file : SourceFile) {records : List Record}
      (tabulates : reading.Tabulates (file.deliver disk) records) : Reads (.file file) (.ok records)
  | noTable (file : SourceFile) {failure : Failure}
      (broken : ∀ records, ¬ reading.Tabulates (file.deliver disk) records)
      (fails : reading.readFile file.name (file.deliver disk) = .error failure) :
      Reads (.file file) (.error failure)
  | record (record : Record) : Reads (.record record) (.error (.typeMismatch "file" "record"))

theorem reads_entry (entry : Entry) : ∃ outcome, reading.Reads disk entry outcome ∧
    ∀ session : Session, session.disk = disk →
      handleTable reading.readFile entry session =
        (ofOutcome outcome >>= writeRecords defaultPort) session := by
  cases entry with
  | record record => exact ⟨_, .record record, fun session _ => rfl⟩
  | file file =>
      have acts : ∀ session : Session, session.disk = disk →
          handleTable reading.readFile (.file file) session =
            (ofOutcome (reading.readFile file.name (file.deliver disk)) >>=
              writeRecords defaultPort) session := by
        rintro session rfl
        rfl
      cases result : reading.readFile file.name (file.deliver disk) with
      | ok records =>
          rw [result] at acts
          exact ⟨_, .table file (reading.readFile_eq_ok.1 result), acts⟩
      | error failure =>
          rw [result] at acts
          refine ⟨_, .noTable file (fun records tabulates => ?_) result, acts⟩
          cases result.symm.trans (reading.readFile_eq_ok.2 tabulates)

end TableReading

/-! ## An output that accepts records -/

structure Session.Feeds (disk : Disk) (plan : FaultPlan) (entries : List Entry)
    (session : Session) : Prop where
  disk : session.disk = disk
  plan : session.plan = plan
  waiting : session.inputs.lookup defaultPort = some ⟨entries, true⟩
  isOpen : session.output.closes = 0

variable {disk : Disk} {plan : FaultPlan} {entries : List Entry}

theorem writeRecords_accepted {session : Session} (accepts : session.plan.Accepts)
    (isOpen : session.output.closes = 0) (port : String) (records : List Record) :
    ∃ after, writeRecords port records session = (.ok (), after) ∧
      session.output.Gains (records.map fun record => (record, port)) after.output ∧
      after.inputs = session.inputs ∧ after.disk = session.disk ∧ after.plan = session.plan := by
  induction records generalizing session with
  | nil => exact ⟨session, rfl, .nothing session.output, rfl, rfl, rfl⟩
  | cons record rest ih =>
      let middle := noted (.writeRecord port) true { session with
        output.recordPorts := addToPort port [record] session.output.recordPorts }
      have first : writeRecord port record session = (.ok (), middle) :=
        writeRecord_accepted accepts isOpen port record
      obtain ⟨after, others, gains, inputs, disk, plan⟩ :=
        @ih middle accepts isOpen
      exact ⟨after, (bind_of_ok first).trans others, gains.cons, inputs, disk, plan⟩

theorem next_feeds {entry : Entry} {session : Session}
    (feeds : session.Feeds disk plan (entry :: entries)) :
    (∃ failure, plan.ofPort session.journal (.next defaultPort) = some failure ∧
      next defaultPort session = (.error failure, noted (.next defaultPort) false session)) ∨
    ∃ taken, next defaultPort session = (.ok entry, taken) ∧ taken.Feeds disk plan entries ∧
      taken.output = session.output := by
  rcases next_waiting feeds.waiting with ⟨failure, planned, fails⟩ | takes
  · exact .inl ⟨failure, feeds.plan ▸ planned, fails⟩
  · exact .inr ⟨_, takes, ⟨feeds.disk, feeds.plan, lookup_setPort _ _, feeds.isOpen⟩, rfl⟩

theorem openDefault_feeds (disk : Disk) (plan : FaultPlan) (entries : List Entry) :
    let start := Session.on (Session.inputsOf entries) disk plan
    (∃ made earlier failure ended, made ≠ .close ∧ plan.ofPort earlier made = some failure ∧
      openDefault start = (.error failure, ended) ∧ ended.journal = ⟨made, false⟩ :: earlier ∧
        ended.output = .empty ∧ ended.plan = plan) ∨
    ∃ opened, openDefault start = (.ok (), opened) ∧ opened.Feeds disk plan entries ∧
      opened.output = .empty := by
  intro start
  have waiting : start.inputs.lookup defaultPort = some ⟨entries, false⟩ := rfl
  rcases openDefault_cases waiting with
    ⟨failure, planned, fails⟩ | ⟨failure, planned, fails⟩ | opens
  · refine .inl ⟨_, _, failure, _, ?_, planned, fails, rfl, rfl, rfl⟩
    intro same
    cases same
  · refine .inl ⟨_, _, failure, _, ?_, planned, fails, rfl, rfl, rfl⟩
    intro same
    cases same
  · exact .inr ⟨_, opens, ⟨rfl, rfl, lookup_setPort _ _, rfl⟩, rfl⟩

/-! ## Draining -/

namespace TableReading

variable {reading : TableReading} {policy : Settings.EntryPolicy}

/-- How a run of some calls ends, given the entries that it has left: none is left, or the first of
them fails and is not skipped, or the plan has refused a call, the closing only if none is left. -/
inductive Ends (reading : TableReading) (policy : Settings.EntryPolicy) (disk : Disk)
    (plan : FaultPlan) (calls : List PortEvent) : List Entry → Outcome Unit → Prop where
  | finished : Ends reading policy disk plan calls [] (.ok ())
  | aborted {entry : Entry} (rest : List Entry) {failure : Failure}
      (fails : reading.Reads disk entry (.error failure)) (fatal : skips policy failure = false) :
      Ends reading policy disk plan calls (entry :: rest) (.error failure)
  | refused (rest : List Entry) {made : PortCall} {earlier : List PortEvent} {failure : Failure}
      (planned : plan.ofPort earlier made = some failure)
      (met : ⟨made, false⟩ :: earlier <:+ calls) (late : made = .close → rest = []) :
      Ends reading policy disk plan calls rest (.error failure)

/-- How the entries of a run divide: those that were read, each failure among them being skipped,
and what is left of them. -/
structure Divides (reading : TableReading) (policy : Settings.EntryPolicy) (disk : Disk)
    (entries : List Entry) (handled : List (Entry × Outcome (List Record))) (rest : List Entry) :
    Prop where
  whole : entries = handled.map Prod.fst ++ rest
  reads : ∀ pair ∈ handled, reading.Reads disk pair.1 pair.2
  skipped : ∀ pair ∈ handled, ∀ failure, pair.2 = .error failure → skips policy failure = true

def recordsOf (handled : List (Entry × Outcome (List Record))) : List Record :=
  handled.flatMap fun pair => pair.2.toOption.getD []

theorem Divides.cons {handled : List (Entry × Outcome (List Record))} {rest : List Entry}
    (divides : reading.Divides policy disk entries handled rest) {entry : Entry}
    {outcome : Outcome (List Record)} (reads : reading.Reads disk entry outcome)
    (skipped : ∀ failure, outcome = .error failure → skips policy failure = true) :
    reading.Divides policy disk (entry :: entries) ((entry, outcome) :: handled) rest where
  whole := congrArg _ divides.whole
  reads := by
    intro pair member
    rcases List.mem_cons.1 member with rfl | member
    · exact reads
    · exact divides.reads pair member
  skipped := by
    intro pair member
    rcases List.mem_cons.1 member with rfl | member
    · exact skipped
    · exact divides.skipped pair member

theorem drainEntries_tables (reading : TableReading) (policy : Settings.EntryPolicy)
    (accepts : plan.Accepts) {session : Session}
    (feeds : session.Feeds disk plan entries) (counts : DrainCounts) :
    let drained := drainEntries policy (handleTable reading.readFile) entries.length counts session
    ∃ handled rest, reading.Divides policy disk entries handled rest ∧
      session.output.Gains ((recordsOf handled).map fun record => (record, defaultPort))
        drained.2.output ∧
      reading.Ends policy disk plan drained.2.journal rest (drained.1.map fun _ => ()) ∧
      drained.2.plan = plan := by
  dsimp only
  induction entries generalizing session counts with
  | nil =>
      refine ⟨[], [], ⟨rfl, by simp, by simp⟩, .nothing session.output, .finished, feeds.plan⟩
  | cons entry others ih =>
      rw [List.length_cons]
      rcases next_feeds feeds with ⟨failure, planned, fails⟩ | ⟨taken, takes, feedsTaken, output⟩
      · rw [drainEntries_of_refused feeds.waiting fails]
        refine ⟨[], entry :: others, ⟨rfl, by simp, by simp⟩, .nothing session.output,
          .refused _ planned (List.suffix_refl _) ?_, feeds.plan⟩
        intro isClose
        cases isClose
      · obtain ⟨outcome, reads, acts⟩ := reading.reads_entry disk entry
        have handles := acts taken feedsTaken.disk
        rw [← output]
        cases outcome with
        | ok records =>
            have acceptsTaken : taken.plan.Accepts := feedsTaken.plan ▸ accepts
            obtain ⟨after, writes, gains, sameInputs, sameDisk, samePlan⟩ :=
              writeRecords_accepted acceptsTaken feedsTaken.isOpen defaultPort records
            have feedsAfter : after.Feeds disk plan others :=
              ⟨sameDisk.trans feedsTaken.disk, samePlan.trans feedsTaken.plan,
                sameInputs ▸ feedsTaken.waiting, gains.closes.trans feedsTaken.isOpen⟩
            obtain ⟨handled, rest, divides, gainsRest, ends, samePlan⟩ :=
              ih feedsAfter (counts.including (.ok ()))
            have allGains := gains.append gainsRest
            rw [← List.map_append] at allGains
            rw [drainEntries_of_passed feeds.waiting takes (handles.trans writes) nofun]
            exact ⟨_, rest, divides.cons reads (by simp), allGains, ends, samePlan⟩
        | error failure =>
            cases skipped : skips policy failure with
            | true =>
                have isSkipped {α : Type} : ∀ other, (Except.error failure : Outcome α) =
                    .error other → skips policy other = true := by
                  intro other same
                  obtain rfl := Except.error.inj same
                  exact skipped
                obtain ⟨handled, rest, divides, gainsRest, ends, samePlan⟩ :=
                  ih feedsTaken (counts.including (.error failure))
                rw [drainEntries_of_passed feeds.waiting takes handles isSkipped]
                exact ⟨_, rest, divides.cons reads isSkipped, gainsRest, ends, samePlan⟩
            | false =>
                rw [drainEntries_of_fatal feeds.waiting takes handles skipped]
                exact ⟨[], entry :: others, ⟨rfl, by simp, by simp⟩, .nothing taken.output,
                  .aborted others reads skipped, feedsTaken.plan⟩

/-! ## The run -/

theorem Ends.finished_of_ok {calls : List PortEvent} {rest : List Entry}
    (ends : reading.Ends policy disk plan calls rest (.ok ())) : rest = [] := by
  cases ends
  rfl

/-- What is left decides the outcome, unless the output cannot be closed. -/
theorem Ends.closed {rest : List Entry} {outcome : Outcome Unit} {session : Session}
    (ends : reading.Ends policy disk plan session.journal rest outcome)
    (samePlan : session.plan = plan) :
    let closed := closeOutput session
    reading.Ends policy disk plan closed.2.journal rest (outcome.bind fun _ => closed.1) := by
  intro closed
  have grown : session.journal <:+ closed.2.journal := by
    rcases closeOutput_cases session with ⟨_, _, result⟩ | ⟨_, result⟩
    · exact ⟨[⟨.close, false⟩], by rw [show closed = _ from result]; rfl⟩
    · exact ⟨[⟨.close, true⟩], by rw [show closed = _ from result]; rfl⟩
  cases ends with
  | finished =>
      rcases closeOutput_cases session with ⟨failure, planned, result⟩ | ⟨_, result⟩
      · rw [samePlan] at planned
        rw [show closed = _ from result]
        exact .refused [] planned (List.suffix_refl _) fun _ => rfl
      · rw [show closed = _ from result]
        exact .finished
  | aborted rest fails fatal => exact .aborted rest fails fatal
  | refused rest planned met late => exact .refused rest planned (met.trans grown) late

theorem work_tables (reading : TableReading) (policy : Settings.EntryPolicy) (disk : Disk)
    (accepts : plan.Accepts) (entries : List Entry) :
    let worked := (Stage.handling policy (handleTable reading.readFile)).run
      (.on (Session.inputsOf entries) disk plan)
    ∃ handled rest, reading.Divides policy disk entries handled rest ∧
      Output.empty.Gains ((recordsOf handled).map fun record => (record, defaultPort))
        worked.2.output ∧
      reading.Ends policy disk plan worked.2.journal rest worked.1 ∧ worked.2.plan = plan := by
  dsimp only
  rw [Stage.handling_run, bind_apply]
  rcases openDefault_feeds disk plan entries with
    ⟨made, earlier, failure, ended, notClose, planned, fails, calls, output, samePlan⟩ |
    ⟨opened, opens, feeds, output⟩
  · rw [drain_eq, bind_of_error fails]
    refine ⟨[], entries, ⟨rfl, by simp, by simp⟩, ?_, .refused entries planned ?_ ?_, samePlan⟩
    · rw [output]
      exact .nothing .empty
    · exact calls.symm ▸ List.suffix_refl _
    · exact fun isClose => (notClose isClose).elim
  · have drains := drainEntries_tables reading policy accepts feeds ⟨0, 0⟩
    rw [output] at drains
    rw [drain_of_opened opens feeds.waiting]
    rcases result : drainEntries policy (handleTable reading.readFile) entries.length ⟨0, 0⟩ opened
      with ⟨_ | _, _⟩
    · rw [result] at drains
      exact drains
    · rw [result] at drains
      exact drains

end TableReading

/-- Whatever the settings, the entries and the disk are: the records on the default port are those
of the files that are tables, file by file in the order of the entries, up to the first failure that
is not skipped.  A file that is no table contributes nothing, and what is read from a file depends
on that file alone. -/
theorem tables_come_out_whole {function : BuiltinFunction} {settings : Settings}
    {reading : TableReading} (reads : TableFunction function settings reading)
    {policy : Settings.EntryPolicy} (known : settings.entryPolicy = .ok policy)
    (entries : List Entry) (disk : Disk) {plan : FaultPlan} (accepts : plan.Accepts) :
    let (outcome, final) := function.execute settings (.on (Session.inputsOf entries) disk plan)
    ∃ handled rest, reading.Divides policy disk entries handled rest ∧
      final.output.records defaultPort = TableReading.recordsOf handled ∧
      reading.Ends policy disk plan final.journal rest outcome := by
  obtain ⟨handled, rest, divides, gains, ends, samePlan⟩ :=
    reading.work_tables policy disk accepts entries
  dsimp only
  rw [BuiltinFunction.execute, reads.settled known, perform]
  have runs : body (.ok (.handling policy (handleTable reading.readFile))) =
    (Stage.handling policy (handleTable reading.readFile)).run := rfl
  rw [runs, withOutput_apply]
  refine ⟨handled, rest, divides, ?_, ends.closed samePlan⟩
  rw [closeOutput_output]
  exact gains.onPort

/-- The last row of the first file is no integer: that file is left out as a whole, and the width of
its rows does not matter to the second file. -/
theorem tables_come_out_whole_late_fault :
    let settings : Settings := [("columns", .list [.object [("datatype", .text "integer"),
        ("fieldName", .text "n"), ("index", .int 0)]]),
      ("ignoreUnmappedColumns", .bool true), ("onEntryError", .text "skip")]
    let text (content : String) : Bytes := Utf8.encode content.toList
    let entries := [Entry.file (.ofBytes "late.csv" (text "1,a\n2,b\nx,c\n")),
      .file (.ofBytes "good.csv" (text "3\n4"))]
    let (outcome, final) := parseDelimited.execute settings (.onMemory entries .empty)
    outcome = .ok () ∧
      final.output.records "default" = [.ofPairs [("n", .int 3)], .ofPairs [("n", .int 4)]] ∧
      ∃ handled : List (Entry × Outcome (List Record)), handled.map Prod.fst = entries ∧
        final.output.records "default" = TableReading.recordsOf handled := by
  intro settings text entries
  have reads : TableFunction parseDelimited settings _ := .delimited rfl
  have known : settings.entryPolicy = .ok .skip := rfl
  obtain ⟨handled, rest, divides, records, ends⟩ :=
    tables_come_out_whole reads known entries .empty FaultPlan.none_accepts
  refine ⟨by rfl, by rfl, handled, ?_, records⟩
  rw [divides.whole, ends.finished_of_ok, List.append_nil]

end Sluice
