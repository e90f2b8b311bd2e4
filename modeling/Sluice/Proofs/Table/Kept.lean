import Sluice.Proofs.Steady
import Sluice.Proofs.Table.Rows

/-!
# Rows that were handled are kept

However a run that writes a table ends, its file is published with the header and a row for each
record that was taken, all of them whole.  Entries that are skipped leave nothing in it, nor do
those that come after the failure that has ended the run.
-/

set_option autoImplicit false

namespace Sluice

open Run

/-! ## Taking entries -/

namespace Session

/-- How many entries were taken from the default port, as the calls tell. -/
def takings (session : Session) : Nat := session.journal.count ⟨.next defaultPort, true⟩

structure SameInput (before after : Session) : Prop where
  inputs : after.inputs = before.inputs
  takings : after.takings = before.takings
  grown : before.journal <:+ after.journal

instance : IsPreorder Session SameInput where
  refl _ := ⟨rfl, rfl, List.suffix_refl _⟩
  trans _ _ _ one two :=
    ⟨two.inputs.trans one.inputs, two.takings.trans one.takings, one.grown.trans two.grown⟩

variable {before after : Session} {made : PortCall}

theorem takings_noted (other : made ≠ .next defaultPort) (succeeded : Bool) (session : Session) :
    (noted made succeeded session).takings = session.takings := by
  refine List.count_cons_of_ne fun same => ?_
  exact other (PortEvent.mk.inj same).1

theorem takings_taken (session : Session) :
    (noted (.next defaultPort) true session).takings = session.takings + 1 := List.count_cons_self

theorem takings_refused (session : Session) :
    (noted (.next defaultPort) false session).takings = session.takings := by
  refine List.count_cons_of_ne fun same => ?_
  cases same

theorem SameInput.noted (same : SameInput before after) (other : made ≠ .next defaultPort)
    (succeeded : Bool) : SameInput before (noted made succeeded after) where
  inputs := same.inputs
  takings := (takings_noted other succeeded after).trans same.takings
  grown := same.grown.trans (List.suffix_cons _ _)

theorem sameInput_stream (other : made ≠ .next defaultPort) (change : OpenFile → OpenFile) :
    Within SameInput (stream made change) := by
  intro session
  rcases stream_cases made change session with ⟨_, _, result⟩ | ⟨_, result⟩
  · rw [result]
    exact SameInput.noted (refl_of SameInput session) other false
  · have same : SameInput session (changed change session) := ⟨rfl, rfl, List.suffix_refl _⟩
    rw [result]
    exact same.noted other true

theorem streams_sameInput : Streams SameInput where
  writes _ := sameInput_stream (fun same => by cases same) _
  flushes := sameInput_stream (fun same => by cases same) _
  changes _ _ _ := ⟨rfl, rfl, List.suffix_refl _⟩

theorem sameInput_closeOutput : Within SameInput closeOutput := by
  intro session
  have closed : session.SameInput { session with output := session.output.close } :=
    ⟨rfl, rfl, List.suffix_refl _⟩
  rcases closeOutput_cases session with ⟨_, _, result⟩ | ⟨_, result⟩ <;>
  · rw [result]
    exact closed.noted (fun same => by cases same) _

end Session

namespace DelimitedLayout

variable {layout : DelimitedLayout} {plan : FaultPlan} {rows : List (List String)}
  {session : Session}

/-! ## The file that is written -/

/-- The rows that stand above the records. -/
def headerRows (layout : DelimitedLayout) : List (List String) :=
  if layout.hasHeader then [layout.fields] else []

/-- The file of the layout is open and holds some rows, though part of them may still wait. -/
structure Holds (layout : DelimitedLayout) (plan : FaultPlan) (rows : List (List String))
    (session : Session) : Prop where
  plan : session.plan = plan
  output : session.output = { Output.empty with filePorts := [(defaultPort, [])] }
  file : ∃ file, session.openFile? = some file ∧ file.Counted ∧ file.port = defaultPort ∧
    file.name = layout.filename ∧ file.content = Rows.rowsBytes layout.delimiter rows

theorem Holds.writes (holds : layout.Holds plan rows session) {more : List (List String)}
    {after : Session} (writes : session.Writes (Rows.rowsBytes layout.delimiter more) after) :
    layout.Holds plan (rows ++ more) after where
  plan := writes.plan.trans holds.plan
  output := writes.output.trans holds.output
  file := by
    obtain ⟨file, opened, counted, port, name, content⟩ := holds.file
    obtain ⟨last, openedLast, countedLast, portLast, nameLast, contentLast⟩ :=
      writes.file file opened counted
    refine ⟨last, openedLast, countedLast, portLast.trans port, nameLast.trans name, ?_⟩
    rw [contentLast, content, Rows.rowsBytes, Rows.rowsBytes, Rows.rowsBytes, List.flatMap_append]

theorem Holds.noted (holds : layout.Holds plan rows session) (made : PortCall)
    (succeeded : Bool) : layout.Holds plan rows (noted made succeeded session) :=
  ⟨holds.plan, holds.output, holds.file⟩

theorem writeRow_holds (accepts : plan.AcceptsFiles) (holds : layout.Holds plan rows session)
    (cells : List String) :
    ∃ after, writeRow layout.delimiter cells session = (.ok (), after) ∧
      layout.Holds plan (rows ++ [cells]) after ∧ session.SameInput after := by
  obtain ⟨after, result, writes⟩ :=
    writeRow_accepted (holds.plan.symm ▸ accepts) layout.delimiter cells
  have same := Session.streams_sameInput.writeRow layout.delimiter cells session
  rw [result] at same
  refine ⟨after, result, holds.writes ?_, same⟩
  rw [Rows.rowsBytes, List.flatMap_singleton]
  exact writes

theorem flushFile_holds (accepts : plan.AcceptsFiles) (holds : layout.Holds plan rows session) :
    ∃ after, flushFile session = (.ok (.ok ()), after) ∧ layout.Holds plan rows after ∧
      session.SameInput after ∧ after.Settled := by
  obtain ⟨after, result, writes, settled⟩ := flushFile_accepted (holds.plan.symm ▸ accepts)
  have same := Session.streams_sameInput.flushFile session
  rw [result] at same
  have kept : layout.Holds plan (rows ++ []) after := holds.writes writes
  rw [List.append_nil] at kept
  exact ⟨after, result, kept, same, settled⟩

/-! ## Taking and handling entries -/

/-- The rows of the records among some entries. -/
def rowsOf (layout : DelimitedLayout) (entries : List Entry) : List (List String) :=
  entries.filterMap fun
    | .record record => some (layout.cells record)
    | .file _ => none

theorem handle_holds (accepts : plan.AcceptsFiles) (holds : layout.Holds plan rows session)
    (entry : Entry) :
    ∃ after, layout.handle entry session = (entry.asRecord.map fun _ => (), after) ∧
      layout.Holds plan (rows ++ layout.rowsOf [entry]) after ∧ session.SameInput after := by
  cases entry with
  | record record => exact writeRow_holds accepts holds (layout.cells record)
  | file file =>
      refine ⟨session, rfl, ?_, refl_of Session.SameInput session⟩
      rw [rowsOf, List.filterMap_cons_none rfl, List.filterMap_nil, List.append_nil]
      exact holds

/-- A run goes on after the entry: it is a record, or failing entries are skipped. -/
def Passes (policy : Settings.EntryPolicy) (entry : Entry) : Prop :=
  policy = .skip ∨ ∃ record, entry = .record record

/-- How a run comes to its end, of which it has taken some entries: all of them have been handled,
or the last one taken is a file and failing ends the run, or the plan has refused a call, that of a
closing only once all entries were taken. -/
inductive Stops (policy : Settings.EntryPolicy) (plan : FaultPlan) (entries taken : List Entry)
    (calls : List PortEvent) : Outcome Unit → Prop where
  | finished (all : taken = entries) (passed : ∀ entry ∈ taken, Passes policy entry) :
      Stops policy plan entries taken calls (.ok ())
  | aborted {earlier : List Entry} {file : SourceFile} (last : taken = earlier ++ [.file file])
      (passed : ∀ entry ∈ earlier, Passes policy entry) (fatal : policy = .fail) :
      Stops policy plan entries taken calls
        (.error (.typeMismatch "record" ("file '" ++ file.name ++ "'")))
  | refused {made : PortCall} {earlier : List PortEvent} {failure : Failure}
      (passed : ∀ entry ∈ taken, Passes policy entry)
      (planned : plan.ofPort earlier made = some failure)
      (met : ⟨made, false⟩ :: earlier <:+ calls)
      (late : made = .closeFile ∨ made = .close → taken = entries) :
      Stops policy plan entries taken calls (.error failure)

structure Keeps (layout : DelimitedLayout) (plan : FaultPlan) (taken : List Entry)
    (session : Session) : Prop where
  takings : session.takings = taken.length
  holds : layout.Holds plan (layout.headerRows ++ layout.rowsOf taken) session

variable {policy : Settings.EntryPolicy} {taken rest : List Entry}

theorem Keeps.noted (keeps : layout.Keeps plan taken session) {made : PortCall}
    (other : made ≠ .next defaultPort) (succeeded : Bool) :
    layout.Keeps plan taken (noted made succeeded session) :=
  ⟨(Session.takings_noted other succeeded session).trans keeps.takings,
    keeps.holds.noted made succeeded⟩

theorem Keeps.setPort (keeps : layout.Keeps plan taken session) (input : InputPort) :
    layout.Keeps plan taken (setPort defaultPort input session) :=
  ⟨keeps.takings, keeps.holds.plan, keeps.holds.output, keeps.holds.file⟩

theorem Keeps.handle (accepts : plan.AcceptsFiles) (keeps : layout.Keeps plan taken session)
    (entry : Entry) (rest : List Entry) :
    let next := Run.noted (.next defaultPort) true (Run.setPort defaultPort ⟨rest, true⟩ session)
    ∃ after, layout.handle entry next = (entry.asRecord.map fun _ => (), after) ∧
      layout.Keeps plan (taken ++ [entry]) after ∧
      after.inputs.lookup defaultPort = some ⟨rest, true⟩ := by
  intro next
  have holds : layout.Holds plan (layout.headerRows ++ layout.rowsOf taken) next :=
    (keeps.setPort ⟨rest, true⟩).holds.noted _ true
  obtain ⟨after, result, holdsMore, same⟩ := handle_holds accepts holds entry
  refine ⟨after, result, ⟨?_, ?_⟩, ?_⟩
  · rw [same.takings, Session.takings_taken, List.length_append, List.length_singleton]
    exact congrArg (· + 1) keeps.takings
  · rw [rowsOf, List.filterMap_append, ← List.append_assoc]
    exact holdsMore
  · rw [same.inputs]
    exact lookup_setPort session _

theorem drainEntries_keeps (accepts : plan.AcceptsFiles) (keeps : layout.Keeps plan taken session)
    (passed : ∀ entry ∈ taken, Passes policy entry)
    (waiting : session.inputs.lookup defaultPort = some ⟨rest, true⟩) (counts : DrainCounts) :
    let drained := drainEntries policy layout.handle rest.length counts session
    ∃ last, last <+: taken ++ rest ∧ layout.Keeps plan last drained.2 ∧
      Stops policy plan (taken ++ rest) last drained.2.journal (drained.1.map fun _ => ()) := by
  dsimp only
  -- What was taken grows as what waits shrinks, so that the rows follow the former.
  induction rest generalizing taken session counts with
  | nil =>
      rw [List.append_nil]
      exact ⟨taken, List.prefix_refl _, keeps, .finished rfl passed⟩
  | cons entry others ih =>
      rw [List.length_cons]
      rcases next_waiting waiting with ⟨failure, planned, fails⟩ | takes
      · rw [drainEntries_of_refused waiting fails]
        refine ⟨taken, List.prefix_append _ _, ⟨?_, keeps.holds.noted _ false⟩,
          .refused passed (keeps.holds.plan ▸ planned) (List.suffix_refl _) ?_⟩
        · exact (Session.takings_refused session).trans keeps.takings
        · rintro (same | same) <;> cases same
      · obtain ⟨after, handles, keepsMore, waitingMore⟩ :=
          keeps.handle accepts entry others
        have whole : taken ++ entry :: others = taken ++ [entry] ++ others := by simp
        have goesOn (counts : DrainCounts) (passes : Passes policy entry) :=
          ih keepsMore (fun other member => (List.mem_append.1 member).elim (passed other)
            fun same => List.mem_singleton.1 same ▸ passes) waitingMore counts
        rw [whole]
        cases entry with
        | record record =>
            rw [drainEntries_of_passed waiting takes handles nofun]
            exact goesOn _ (.inr ⟨record, rfl⟩)
        | file file =>
            cases policy with
            | skip =>
                rw [drainEntries_of_passed waiting takes handles fun _ fails => by cases fails; rfl]
                exact goesOn _ (.inl rfl)
            | fail =>
                rw [drainEntries_of_fatal waiting takes handles rfl]
                exact ⟨taken ++ [.file file], List.prefix_append _ _, keepsMore,
                  .aborted rfl passed rfl⟩

theorem drain_keeps (accepts : plan.AcceptsFiles) (policy : Settings.EntryPolicy)
    {entries : List Entry} (keeps : layout.Keeps plan [] session)
    (waiting : session.inputs.lookup defaultPort = some ⟨entries, false⟩) :
    let drained := drain policy layout.handle session
    ∃ last, last <+: entries ∧ layout.Keeps plan last drained.2 ∧
      Stops policy plan entries last drained.2.journal (drained.1.map fun _ => ()) := by
  dsimp only
  have notFind : PortCall.findInput defaultPort ≠ .next defaultPort := fun same => by cases same
  have notOpen : PortCall.openInput defaultPort ≠ .next defaultPort := fun same => by cases same
  have none : ∀ entry ∈ ([] : List Entry), Passes policy entry := fun _ member => by cases member
  rcases openDefault_cases waiting with
    ⟨failure, planned, fails⟩ | ⟨failure, planned, fails⟩ | opens
  · rw [drain_eq, bind_of_error fails]
    refine ⟨[], List.nil_prefix, keeps.noted notFind false,
      .refused none (keeps.holds.plan ▸ planned) (List.suffix_refl _) ?_⟩
    rintro (same | same) <;> cases same
  · rw [drain_eq, bind_of_error fails]
    refine ⟨[], List.nil_prefix, (keeps.noted notFind true).noted notOpen false,
      .refused none (keeps.holds.plan ▸ planned) (List.suffix_refl _) ?_⟩
    rintro (same | same) <;> cases same
  · have opened := ((keeps.noted notFind true).setPort ⟨entries, true⟩).noted notOpen true
    rw [drain_of_opened opens (lookup_setPort _ _)]
    exact drainEntries_keeps accepts opened none (lookup_setPort _ _) ⟨0, 0⟩

/-! ## Before and after the entries -/

theorem leading_keeps (accepts : plan.AcceptsFiles) (layout : DelimitedLayout)
    (policy : Settings.EntryPolicy) (entries : List Entry) (disk : Disk) :
    ∃ led, (layout.stage policy).leading (.on (Session.inputsOf entries) disk plan) =
        (.ok (), led) ∧
      layout.Keeps plan [] led ∧ led.inputs.lookup defaultPort = some ⟨entries, false⟩ := by
  let start := Session.on (Session.inputsOf entries) disk plan
  obtain ⟨begun, begins, holds, inputs, takings⟩ : ∃ begun,
      newFile defaultPort layout.filename start = (.ok (), begun) ∧ layout.Holds plan [] begun ∧
        begun.inputs = Session.inputsOf entries ∧ begun.takings = 0 :=
    ⟨_, newFile_accepted accepts rfl, ⟨rfl, rfl, _, rfl, rfl, rfl, rfl, rfl⟩, rfl, rfl⟩
  have heads : ∃ led, layout.writeHeader begun = (.ok (), led) ∧
      layout.Holds plan layout.headerRows led ∧ begun.SameInput led := by
    rw [writeHeader, headerRows]
    split
    · exact writeRow_holds accepts holds layout.fields
    · exact ⟨begun, rfl, holds, refl_of Session.SameInput begun⟩
  obtain ⟨led, result, headed, same⟩ := heads
  refine ⟨led, (bind_of_ok begins).trans result, ⟨same.takings.trans takings, ?_⟩, ?_⟩
  · rw [rowsOf, List.filterMap_nil, List.append_nil]
    exact headed
  · rw [same.inputs, inputs]
    rfl

theorem ending_publishes (accepts : plan.AcceptsFiles) (holds : layout.Holds plan rows session)
    (policy : Settings.EntryPolicy) (drained : Outcome Unit) :
    ∃ closed ended, (layout.stage policy).ending drained session =
        (drained.bind fun _ => closed, ended) ∧
      session.SameInput ended ∧ ended.plan = plan ∧
      ended.output = { Output.empty with filePorts :=
        [(defaultPort, [⟨layout.filename, Rows.rowsBytes layout.delimiter rows⟩])] } ∧
      ∀ failure, closed = .error failure → ∃ earlier,
        plan.ofPort earlier .closeFile = some failure ∧
          ⟨.closeFile, false⟩ :: earlier <:+ ended.journal := by
  have trails : ∃ worked, (ofOutcome drained >>= fun _ => (layout.stage policy).trail) session =
      (drained, worked) ∧ layout.Holds plan rows worked ∧ session.SameInput worked := by
    cases drained with
    | error failure => exact ⟨session, rfl, holds, refl_of Session.SameInput session⟩
    | ok value =>
        obtain ⟨flushed, flushes, holdsToo, same, _⟩ := flushFile_holds accepts holds
        exact ⟨flushed, bind_of_ok flushes, holdsToo, same⟩
  obtain ⟨worked, works, holdsWorked, sameWorked⟩ := trails
  obtain ⟨flushed, flushes, holdsFlushed, sameFlushed, settled⟩ :=
    flushFile_holds accepts holdsWorked
  obtain ⟨file, opened, counted, port, name, content⟩ := holdsFlushed.file
  have whole : file.bytes = Rows.rowsBytes layout.delimiter rows := by
    rw [← content, OpenFile.content_of_settled counted (settled file opened)]
  have same := trans_of Session.SameInput sameWorked sameFlushed
  have published : flushed.output.publish file.port ⟨file.name, file.bytes⟩ =
      { Output.empty with filePorts :=
        [(defaultPort, [⟨layout.filename, Rows.rowsBytes layout.delimiter rows⟩])] } := by
    rw [holdsFlushed.output, port, name, whole]
    rfl
  have ends : (layout.stage policy).ending drained session =
      (attempt closeFile >>= fun closed => ofOutcome (drained.bind fun _ => closed)) flushed := by
    rw [Stage.ending, attempt_bind, works]
    exact bind_of_ok flushes
  have sameClosed : session.SameInput { flushed with
      output := flushed.output.publish file.port ⟨file.name, file.bytes⟩, openFile? := none } :=
    ⟨same.inputs, same.takings, same.grown⟩
  have notNext : PortCall.closeFile ≠ .next defaultPort := fun same => by cases same
  rw [ends, attempt_bind]
  rcases closeFile_cases opened with ⟨failure, planned, result⟩ | ⟨_, result⟩
  · rw [result]
    refine ⟨.error failure, _, rfl, sameClosed.noted notNext false, holdsFlushed.plan, published,
      ?_⟩
    intro other fails
    cases fails
    exact ⟨_, holdsFlushed.plan ▸ planned, List.suffix_refl _⟩
  · rw [result]
    refine ⟨.ok (), _, rfl, sameClosed.noted notNext true, holdsFlushed.plan, published, ?_⟩
    intro other fails
    cases fails

theorem Stops.bind {entries : List Entry} {calls later : List PortEvent}
    {outcome closed : Outcome Unit} (stops : Stops policy plan entries taken calls outcome)
    (grown : calls <:+ later)
    (closes : ∀ failure, closed = .error failure → ∃ made earlier,
      plan.ofPort earlier made = some failure ∧ ⟨made, false⟩ :: earlier <:+ later) :
    Stops policy plan entries taken later (outcome.bind fun _ => closed) := by
  cases stops with
  | finished all passed =>
      cases closed with
      | ok value => exact .finished all passed
      | error failure =>
          obtain ⟨made, earlier, planned, met⟩ := closes failure rfl
          exact .refused passed planned met fun _ => all
  | aborted last passed fatal => exact .aborted last passed fatal
  | refused passed planned met late => exact .refused passed planned (met.trans grown) late

/-! ## The run -/

theorem perform_keeps (accepts : plan.AcceptsFiles) (layout : DelimitedLayout)
    (policy : Settings.EntryPolicy) (entries : List Entry) (disk : Disk) :
    let (outcome, final) :=
      perform (.ok (layout.stage policy)) (.on (Session.inputsOf entries) disk plan)
    let taken := entries.take final.takings
    final.output.recordPorts = [] ∧
    final.output.filePorts = [(defaultPort, [⟨layout.filename,
      Rows.rowsBytes layout.delimiter (layout.headerRows ++ layout.rowsOf taken)⟩])] ∧
    Stops policy plan entries taken final.journal outcome := by
  obtain ⟨led, leads, keeps, waiting⟩ := leading_keeps accepts layout policy entries disk
  obtain ⟨taken, part, kept, stops⟩ := drain_keeps accepts policy keeps waiting
  obtain ⟨closed, ended, ends, same, endedPlan, published, closes⟩ :=
    ending_publishes accepts kept.holds policy
      ((drain policy layout.handle led).1.map fun _ => ())
  have runs : body (.ok (layout.stage policy)) (.on (Session.inputsOf entries) disk plan) =
      (((drain policy layout.handle led).1.map fun _ => ()).bind fun _ => closed, ended) :=
    (Stage.run_of_led leads).trans ends
  have stopsEnded := stops.bind same.grown fun failure fails => ⟨_, closes failure fails⟩
  have sameFinal := Session.sameInput_closeOutput ended
  have all : entries.take (closeOutput ended).2.takings = taken := by
    rw [sameFinal.takings, same.takings, kept.takings]
    exact (List.prefix_iff_eq_take.1 part).symm
  rw [perform, withOutput_apply, runs]
  dsimp only
  rw [all, closeOutput_output, published]
  refine ⟨rfl, rfl, stopsEnded.bind sameFinal.grown fun failure fails => ?_⟩
  rcases closeOutput_cases ended with ⟨_, planned, result⟩ | ⟨_, result⟩
  · rw [result] at fails ⊢
    cases fails
    exact ⟨_, _, endedPlan ▸ planned, List.suffix_refl _⟩
  · rw [result] at fails
    cases fails

/-! ## What the settings say -/

theorem readFields_eq_ok {index : Nat} {items : List Json} {fields : List String} :
    readFields index items = .ok fields ↔ items = fields.map .text := by
  induction items generalizing index fields with
  | nil => cases fields <;> simp [readFields]
  | cons item rest ih =>
      cases item with
      | text name =>
          rw [readFields, Outcome.bind_eq_ok]
          cases fields with
          | nil => simp
          | cons first others => simp [ih, and_comm]
      | null | bool | int | float | list | object => cases fields <;> simp [readFields]

structure Follows (layout : DelimitedLayout) (settings : Settings) : Prop where
  fields : settings.requiredList fieldsKey = .ok (layout.fields.map .text)
  delimiter : settings.delimiter "delimiter" 44 = .ok layout.delimiter
  filename : settings.requiredText "filename" = .ok layout.filename
  header : layout.hasHeader = asksHeader (settings.get? "header")

theorem follows_of_read {settings : Settings} (read : ofSettings settings = .ok layout) :
    layout.Follows settings := by
  simp only [ofSettings, Outcome.bind_eq_ok] at read
  obtain ⟨items, listed, fields, reads, _, _, delimiter, separates, filename, named, made⟩ := read
  obtain rfl := readFields_eq_ok.1 reads
  cases made
  exact ⟨listed, separates, named, rfl⟩

inductive CellOf (record : Record) (name : String) : String → Prop where
  | held {value : Value} (found : record.get? name = some value) (other : value ≠ .null) :
      CellOf record name value.display
  | empty (nothing : record.get? name = none ∨ record.get? name = some .null) :
      CellOf record name ""

theorem cellOf_display (record : Record) (name : String) :
    CellOf record name (record.getOrNull name).display := by
  cases found : record.get? name with
  | none =>
      rw [Record.getOrNull, found]
      exact .empty (.inl found)
  | some value =>
      rw [Record.getOrNull, found]
      by_cases null : value = .null
      · subst null
        exact .empty (.inr found)
      · exact .held found null

theorem forall₂_cells (layout : DelimitedLayout) (record : Record) :
    List.Forall₂ (CellOf record) layout.fields (layout.cells record) := by
  rw [cells, List.forall₂_map_right_iff, List.forall₂_same]
  exact fun name _ => cellOf_display record name

theorem rowBytes_ends (delimiter : UInt8) (cells : List String) :
    ∃ row, rowBytes delimiter cells = row ++ [10] := by
  rw [rowBytes, rowPieces, List.flatten_append, endPieces]
  split
  · exact ⟨_, (List.append_assoc _ [Rows.quoteByte, Rows.quoteByte] [10]).symm⟩
  · exact ⟨_, rfl⟩

/-- **The rows that were handled are published, however the run ends.**  If the settings are
accepted and the output accepts what is written to a file, then one file is published, with the
header if it is asked for and a row for each record among the entries that were taken. -/
theorem publishes_rows_handled {settings : Settings} {layout : DelimitedLayout}
    (read : ofSettings settings = .ok layout) {policy : Settings.EntryPolicy}
    (known : settings.entryPolicy = .ok policy) (entries : List Entry) (disk : Disk)
    {plan : FaultPlan} (accepts : plan.AcceptsFiles) :
    let (outcome, final) :=
      generateDelimited.execute settings (.on (Session.inputsOf entries) disk plan)
    let taken := entries.take final.takings
    final.output.recordPorts = [] ∧
    final.output.filePorts = [(defaultPort, [⟨layout.filename,
      Rows.rowsBytes layout.delimiter (layout.headerRows ++ layout.rowsOf taken)⟩])] ∧
    Stops policy plan entries taken final.journal outcome ∧
    layout.Follows settings ∧
    (∀ record, List.Forall₂ (CellOf record) layout.fields (layout.cells record)) ∧
    ∀ cells, ∃ row, rowBytes layout.delimiter cells = row ++ [10] := by
  have settled : generateDelimited.settle settings = .ok (layout.stage policy) :=
    settle_eq_ok.2 ⟨layout, policy, read, known, rfl⟩
  obtain ⟨records, files, stops⟩ := perform_keeps accepts layout policy entries disk
  dsimp only
  rw [BuiltinFunction.execute, settled]
  exact ⟨records, files, stops, follows_of_read read, layout.forall₂_cells,
    rowBytes_ends layout.delimiter⟩

/-- Taking the third entry fails: the row of the first one is published below the header. -/
theorem publishes_rows_handled_late_failure :
    let settings : Settings := [("delimiter", .text ","), ("filename", .text "x.csv"),
      ("header", .bool true), ("headerValue", .list [.text "a", .text "b"]),
      ("onEntryError", .text "skip")]
    let plan : FaultPlan := ⟨fun earlier call =>
      if call = .next "default" ∧ earlier.count ⟨.next "default", true⟩ = 2 then
        some (.port "default" "connection lost") else none, fun _ _ => none⟩
    let record (text : String) : Entry := .record (.ofPairs [("a", .text text), ("c", .null)])
    let entries := [record "1", .file (.ofBytes "in.csv" [120]), record "2"]
    let (outcome, final) :=
      generateDelimited.execute settings (.on (Session.inputsOf entries) .empty plan)
    plan.AcceptsFiles ∧ outcome = .error (.port "default" "connection lost") ∧
      final.output.filePorts = [("default", [⟨"x.csv", Utf8.encode "a,b\n1,\n".toList⟩])] := by
  intro settings plan record entries
  have read : ofSettings settings = .ok ⟨true, ["a", "b"], 44, "x.csv"⟩ := rfl
  have accepts : plan.AcceptsFiles := by
    refine ⟨fun earlier port name => ?_, fun _ _ => rfl⟩
    have other : PortCall.newFile port name ≠ .next "default" := fun same => by cases same
    simp [plan, other]
  have known : settings.entryPolicy = .ok .skip := rfl
  obtain ⟨_, files, _⟩ := publishes_rows_handled read known entries .empty accepts
  exact ⟨accepts, by rfl, files.trans (by rfl)⟩

end DelimitedLayout

end Sluice
