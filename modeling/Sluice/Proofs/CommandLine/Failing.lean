import Sluice.CommandLine.Execution
import Sluice.Proofs.FileRouting
import Sluice.Proofs.Flow.Disk
import Sluice.Proofs.Settling

/-!
# A failing run leaves the disk alone

A run goes on to its output folder only once everything was loaded and its function has ended well.
Whatever stands in the way before that ends the program with a failure, and the disk is as it was.
-/

set_option autoImplicit false

namespace Sluice

open Run

/-! ## Files that cannot be read -/

theorem SourceFile.deliver_of_unread {disk : Disk} {path : String} {file : SourceFile}
    {fault : StreamFault} (opens : atPath disk path = .ok file)
    (fails : (file.deliver disk).fault = some fault) : file.deliver disk = ⟨[], some fault⟩ := by
  rw [atPath] at opens
  split at opens
  · cases opens
  · obtain ⟨place, _, same⟩ := Outcome.bind_eq_ok.1 opens
    cases same
    rw [deliver] at fails ⊢
    dsimp only at fails ⊢
    cases stored : disk.bytesAt place.1 with
    | ok bytes =>
        rw [stored] at fails
        cases fails
    | error found =>
        rw [stored] at fails
        exact congrArg _ fails

theorem DelimitedFormat.readFile_unread (format : DelimitedFormat) (file : String)
    (fault : StreamFault) :
    format.readFile file ⟨[], some fault⟩ = .error (.delimited (.stream fault)) := by
  rw [readFile]
  split <;> rfl

inductive ReadsFile (file : SourceFile) : BuiltinFunction → Settings → Prop where
  | delimited (settings : Settings) : ReadsFile file parseDelimited settings
  | fixedWidth (settings : Settings) : ReadsFile file parseFixedWidth settings
  | routed {settings : Settings} {routing : ConditionRouting}
      (read : ConditionRouting.ofSettings settings = .ok routing)
      (decides : routing.table.Decides file) : ReadsFile file routeFiles settings

theorem ReadsFile.saves_none {file : SourceFile} {function : BuiltinFunction} {settings : Settings}
    (reads : ReadsFile file function settings) : function.key ≠ saveFiles.key := by
  cases reads <;> decide

/-- The outcome is a failure that ends the run under any policy. -/
def Outcome.Fatal {α : Type} (outcome : Outcome α) : Prop :=
  ∃ failure, outcome = .error failure ∧ failure.isEntryScoped = false

section Unread

variable {session : Session} {file : SourceFile} {fault : StreamFault}

theorem handleTable_fatal {readFile : String → Delivery → Outcome (List Record)}
    (fatal : Outcome.Fatal (readFile file.name (file.deliver session.disk))) :
    Outcome.Fatal (handleTable readFile (.file file) session).1 := by
  obtain ⟨failure, fails, grave⟩ := fatal
  refine ⟨failure, ?_, grave⟩
  rw [handleTable, Entry.asFile, ofOutcome_ok_bind, bind_of_ok (deliver_apply file session), fails]
  rfl

theorem copyInto_fatal (memory : session.plan = .none) (port name : String) {delivery : Delivery}
    (fails : delivery.fault = some fault) :
    Outcome.Fatal (copyInto port name delivery session).1 := by
  by_cases isOpen : session.output.closes = 0
  · obtain ⟨after, copies, _⟩ := copyInto_memory memory isOpen port name delivery
    rw [copies, copyOutcome, fails]
    exact ⟨.stream fault, rfl, rfl⟩
  · have closed : session.output.isClosed = true :=
      decide_eq_true (Nat.pos_of_ne_zero isOpen)
    have refused : newFile port name session =
        (.error (.port port "write after close"), noted (.newFile port name) false session) := by
      rw [newFile, call_memory memory, Output.openFile, Output.checkOpen, if_pos closed]
      rfl
    rw [copyInto, bind_of_error refused]
    exact ⟨_, rfl, rfl⟩

theorem handleFile_fatal {compiled : CompiledRouting} {table : RouteTable}
    (follows : compiled.Follows table) (memory : session.plan = .none)
    (decides : table.Decides file) (fails : (file.deliver session.disk).fault = some fault) :
    Outcome.Fatal (compiled.handleFile (.file file) session).1 := by
  obtain ⟨port, picks⟩ := RouteTable.decides_iff.1 decides
  have chosen : compiled.portOfFile file.name = .ok port :=
    (follows.chooses file.name).trans (RouteTable.choose_eq_ok.2 picks)
  obtain ⟨failure, copies, grave⟩ := copyInto_fatal memory port file.name fails
  refine ⟨failure, ?_, grave⟩
  rw [CompiledRouting.handleFile, Entry.asFile, ofOutcome_ok_bind, chosen, ofOutcome_ok_bind,
    bind_of_ok (deliver_apply file session), bind_of_error (Prod.ext copies rfl)]

/-- A file that cannot be read ends the run of a function that reads it. -/
theorem ReadsFile.handle_fatal {function : BuiltinFunction} {settings : Settings} {stage : Stage}
    (reads : ReadsFile file function settings) (settled : function.settle settings = .ok stage)
    (memory : session.plan = .none)
    (unread : file.deliver session.disk = ⟨[], some fault⟩) :
    Outcome.Fatal (stage.handle (.file file) session).1 := by
  cases reads with
  | delimited =>
      obtain ⟨format, _, _, _, rfl⟩ := DelimitedFormat.settle_eq_ok.1 settled
      refine handleTable_fatal ⟨.delimited (.stream fault), ?_, rfl⟩
      rw [unread, format.readFile_unread]
  | fixedWidth =>
      obtain ⟨format, _, _, _, rfl⟩ := FixedWidthFormat.settle_eq_ok.1 settled
      refine handleTable_fatal ⟨.stream fault, ?_, rfl⟩
      rw [unread]
      rfl
  | @routed _ routing read decides =>
      obtain ⟨found, _, compiled, readFound, _, compiles, rfl⟩ :=
        ConditionRouting.settle_eq_ok.1 settled
      cases readFound.symm.trans read
      exact handleFile_fatal (ConditionRouting.compile_follows compiles) memory decides
        (by rw [unread])

end Unread

/-! ## Every handling meets the disk as it was -/

/-- On memory, what no handling changes still holds before each one of them. -/
theorem Handles.outcome_of_mem {handle : Entry → Run Unit} {disk : Disk}
    (aside : ∀ entry, (handle entry).Aside) (keeps : ∀ entry, KeepsDisk (handle entry))
    {before after : Session} {log : HandlingLog} (handles : Handles handle before log after)
    (memory : before.plan = .none) (sameDisk : before.disk = disk) {entry : Entry}
    {outcome : Outcome Unit} (member : (entry, outcome) ∈ log) :
    ∃ session : Session, session.plan = .none ∧ session.disk = disk ∧
      (handle entry session).1 = outcome := by
  induction handles with
  | done session => cases member
  | @entry before taken middle after first found log takes handled rest ih =>
      have alike := next_alike memory takes
      have takenDisk : taken.disk = disk := alike.disk.symm.trans sameDisk
      rcases List.mem_cons.1 member with same | member
      · cases same
        exact ⟨taken, alike.other, takenDisk, congrArg Prod.fst handled⟩
      · have kept := keeps first taken
        rw [handled] at kept
        exact ih ((aside first).memory alike.other handled).1 (kept.trans takenDisk) member

/-- An entry that no session lets a stage get over keeps the run from ending well. -/
theorem Stage.KeepsDisk.perform_fails {stage : Stage} (keeps : stage.KeepsDisk)
    (steady : stage.Steady) {entries : List Entry} {disk : Disk} {entry : Entry}
    (member : entry ∈ entries)
    (fatal : ∀ session : Session, session.plan = .none → session.disk = disk →
      Outcome.Fatal (stage.handle entry session).1) :
    ∃ failure, (perform (.ok stage) (.onMemory entries disk)).1 = .error failure := by
  obtain ⟨led, opened, log, outcome, after, runs⟩ := steady.runs entries disk
  cases outcome with
  | error failure => exact ⟨failure, runs.outcome_eq⟩
  | ok value =>
      -- A draining that ended well has handled the entry, and met the disk as it was.
      obtain ⟨whole, failing⟩ := drained_ok_iff.1 runs.drained
      rw [← whole] at member
      obtain ⟨⟨_, outcome⟩, handled, rfl⟩ := List.mem_map.1 member
      have ledDisk : led.disk = disk := by
        have kept := (keeps.acquire.bind fun _ => keeps.lead) (Session.onMemory entries disk)
        rw [show stage.acquire >>= (fun _ => stage.lead) = stage.leading from rfl, runs.leads]
          at kept
        exact kept
      obtain ⟨session, memory, sameDisk, result⟩ := runs.handles.outcome_of_mem steady.handle_aside
        keeps.handle runs.offers.memory (runs.alike.disk.symm.trans ledDisk) handled
      obtain ⟨failure, fails, grave⟩ := fatal session memory sameDisk
      have skipped := failing _ failure (by rw [← fails, result]; exact handled)
      rw [skips, grave, Bool.and_false] at skipped
      cases skipped

theorem ReadsFile.execute_fails {function : BuiltinFunction} {settings : Settings}
    {file : SourceFile} (reads : ReadsFile file function settings) {entries : List Entry}
    (member : .file file ∈ entries) {disk : Disk} {fault : StreamFault}
    (unread : file.deliver disk = ⟨[], some fault⟩) :
    ∃ failure, (function.execute settings (.onMemory entries disk)).1 = .error failure := by
  have builtin : function ∈ builtinFunctions := by cases reads <;> simp [builtinFunctions]
  rw [BuiltinFunction.execute]
  cases settled : function.settle settings with
  | error failure => exact ⟨failure, (perform_refused_on failure _ disk .none).1⟩
  | ok stage =>
      exact (settled_keepsDisk builtin reads.saves_none settled).perform_fails
        (builtinStage_of_settle builtin settled).steady member fun session memory sameDisk =>
          reads.handle_fatal settled memory (sameDisk ▸ unread)

/-! ## Loading -/

theorem Ndjson.readLines_ok {fault : Option StreamFault} {number : Nat}
    {lines : List (Except StreamFault (List Char))} {records : List Record}
    (reads : readLines fault number lines = .ok records) :
    fault = none ∧ ∀ line ∈ lines, ∃ text, line = .ok text ∧
      (text.all isBlank = false → ∃ members, Json.read? text = some (.object members)) := by
  induction lines generalizing number records with
  | nil =>
      cases fault with
      | none => exact ⟨rfl, by simp⟩
      | some fault => cases reads
  | cons line rest ih =>
      cases line with
      | error fault => cases reads
      | ok text =>
          rw [readLines] at reads
          split at reads
          · next blank =>
              obtain ⟨noFault, others⟩ := ih reads
              refine ⟨noFault, List.forall_mem_cons.2 ⟨⟨text, rfl, ?_⟩, others⟩⟩
              intro filled
              rw [blank] at filled
              cases filled
          · obtain ⟨record, readsLine, reads⟩ := Outcome.bind_eq_ok.1 reads
            obtain ⟨_, readsRest, _⟩ := Outcome.bind_eq_ok.1 reads
            obtain ⟨noFault, others⟩ := ih readsRest
            refine ⟨noFault, List.forall_mem_cons.2 ⟨⟨text, rfl, fun _ => ?_⟩, others⟩⟩
            rw [readLine] at readsLine
            split at readsLine
            · cases readsLine
            · next json found =>
                cases json with
                | object members => exact ⟨members, found⟩
                | _ => cases readsLine

namespace CommandLine

theorem openFiles_ok {disk : Disk} {paths : List String} {entries : List Entry}
    (opens : openFiles disk paths = .ok entries) :
    ∀ path ∈ paths, ∃ file, SourceFile.atPath disk path = .ok file ∧ .file file ∈ entries := by
  induction paths generalizing entries with
  | nil => simp
  | cons path rest ih =>
      rw [openFiles] at opens
      cases opened : SourceFile.atPath disk path with
      | error fault =>
          rw [opened] at opens
          cases opens
      | ok file =>
          rw [opened] at opens
          obtain ⟨others, opensRest, same⟩ := Outcome.bind_eq_ok.1 opens
          cases same
          refine List.forall_mem_cons.2 ⟨⟨file, opened, List.mem_cons_self ..⟩, ?_⟩
          intro other member
          obtain ⟨file, opened, listed⟩ := ih opensRest other member
          exact ⟨file, opened, List.mem_cons_of_mem _ listed⟩

def recordsDelivery (disk : Disk) (path : String) (place : Place) : Delivery :=
  SourceFile.deliver disk ⟨path, .stored place⟩

theorem loadRecords_ok {disk : Disk} {path : String} {records : List Record}
    (loads : loadRecords disk path = .ok records) :
    ∃ place node, disk.find path = .ok (place, node) ∧
      Ndjson.read (recordsDelivery disk path place) = .ok records := by
  rw [loadRecords] at loads
  cases found : disk.find path with
  | error fault =>
      rw [found] at loads
      cases loads
  | ok pair =>
      obtain ⟨place, node⟩ := pair
      rw [found] at loads
      refine ⟨place, node, rfl, ?_⟩
      dsimp only at loads
      rw [recordsDelivery]
      cases reads : Ndjson.read (SourceFile.deliver disk ⟨path, .stored place⟩) with
      | error fault =>
          rw [reads] at loads
          cases loads
      | ok found =>
          rw [reads] at loads
          cases loads
          rfl

theorem loadEntries_ok {disk : Disk} {arguments : RunArguments} {entries : List Entry}
    (loads : loadEntries disk arguments = .ok entries) :
    (∀ path ∈ arguments.files, ∃ file, SourceFile.atPath disk path = .ok file ∧
      .file file ∈ entries) ∧
    ∀ path, arguments.records = some path → ∃ records, loadRecords disk path = .ok records := by
  obtain ⟨files, opens, loads⟩ := Outcome.bind_eq_ok.1 loads
  cases given : arguments.records with
  | none =>
      rw [given] at loads
      cases loads
      exact ⟨openFiles_ok opens, nofun⟩
  | some path =>
      rw [given] at loads
      obtain ⟨records, loadsRecords, same⟩ := Outcome.bind_eq_ok.1 loads
      cases same
      refine ⟨fun other listed => ?_, fun other same => ?_⟩
      · obtain ⟨file, opened, member⟩ := openFiles_ok opens other listed
        exact ⟨file, opened, List.mem_append_left _ member⟩
      · cases same
        exact ⟨records, loadsRecords⟩

theorem prepare_ok {catalog : Catalog} {disk : Disk} {arguments : RunArguments} {run : RunFile}
    {found : CatalogEntry} {entries : List Entry}
    (prepares : prepare catalog disk arguments = .ok (run, found, entries)) :
    loadRunFile disk arguments.settings = .ok run ∧ catalog.find? run.function = some found ∧
      loadEntries disk arguments = .ok entries := by
  obtain ⟨loaded, loads, prepares⟩ := Outcome.bind_eq_ok.1 prepares
  cases finds : catalog.find? loaded.function with
  | none =>
      rw [finds] at prepares
      cases prepares
  | some other =>
      rw [finds] at prepares
      obtain ⟨given, loadsEntries, same⟩ := Outcome.bind_eq_ok.1 prepares
      cases same
      exact ⟨loads, finds, loadsEntries⟩

/-! ## What stands in the way of a run -/

structure Asks (disk : Disk) (arguments : RunArguments) (function : BuiltinFunction)
    (run : RunFile) : Prop where
  loads : loadRunFile disk arguments.settings = .ok run
  builtin : function ∈ builtinFunctions
  named : run.function = function.key

/-- Something that keeps a run from ending well before its output is written.  Each of these is
enough, whatever else there is. -/
inductive Obstacle (disk : Disk) (arguments : RunArguments) : Prop where
  | runFile {message : String} (fails : loadRunFile disk arguments.settings = .error message)
  | unknownFunction {run : RunFile} (loads : loadRunFile disk arguments.settings = .ok run)
      (unknown : Catalog.builtins.find? run.function = none)
  | closedFile {path : String} {fault : StreamFault} (listed : path ∈ arguments.files)
      (fails : SourceFile.atPath disk path = .error fault)
  | closedRecords {path : String} {fault : StreamFault} (given : arguments.records = some path)
      (fails : disk.find path = .error fault)
  | unreadRecords {path : String} {place : Place} {node : DiskNode} {fault : StreamFault}
      (given : arguments.records = some path) (finds : disk.find path = .ok (place, node))
      (fails : (recordsDelivery disk path place).fault = some fault ∨
        .error fault ∈ (recordsDelivery disk path place).lines)
  | noObject {path : String} {place : Place} {node : DiskNode} {line : List Char}
      (given : arguments.records = some path) (finds : disk.find path = .ok (place, node))
      (listed : .ok line ∈ (recordsDelivery disk path place).lines)
      (filled : line.all isBlank = false)
      (other : ∀ members, Json.read? line ≠ some (.object members))
  | unreadFile {path : String} {file : SourceFile} {fault : StreamFault}
      {function : BuiltinFunction} {run : RunFile} (listed : path ∈ arguments.files)
      (opens : SourceFile.atPath disk path = .ok file)
      (fails : (file.deliver disk).fault = some fault)
      (asks : Asks disk arguments function run) (reads : ReadsFile file function run.settings)
  | function {function : BuiltinFunction} {run : RunFile} {entries : List Entry}
      {failure : Failure} (asks : Asks disk arguments function run)
      (other : function.key ≠ saveFiles.key) (loads : loadEntries disk arguments = .ok entries)
      (fails : (function.execute run.settings (.onMemory entries disk)).1 = .error failure)

theorem find?_of_builtin {function : BuiltinFunction} (builtin : function ∈ builtinFunctions) :
    Catalog.builtins.find? function.key = some function.entry := by
  simp only [builtinFunctions, List.mem_cons, List.not_mem_nil, or_false] at builtin
  rcases builtin with rfl | rfl | rfl | rfl | rfl | rfl | rfl | rfl <;> rfl

theorem Asks.entry {disk : Disk} {arguments : RunArguments} {function : BuiltinFunction}
    {run loaded : RunFile} {found : CatalogEntry} (asks : Asks disk arguments function run)
    (loads : loadRunFile disk arguments.settings = .ok loaded)
    (finds : Catalog.builtins.find? loaded.function = some found) :
    loaded = run ∧ found = function.entry := by
  cases loads.symm.trans asks.loads
  rw [asks.named, find?_of_builtin asks.builtin] at finds
  exact ⟨rfl, (Option.some.inj finds).symm⟩

theorem records_readable {disk : Disk} {arguments : RunArguments} {entries : List Entry}
    (loads : loadEntries disk arguments = .ok entries) {path : String}
    (given : arguments.records = some path) {place : Place} {node : DiskNode}
    (finds : disk.find path = .ok (place, node)) :
    ∃ records, Ndjson.read (recordsDelivery disk path place) = .ok records := by
  obtain ⟨records, loadsRecords⟩ := (loadEntries_ok loads).2 path given
  obtain ⟨_, _, found, reads⟩ := loadRecords_ok loadsRecords
  cases found.symm.trans finds
  exact ⟨records, reads⟩

/-- Of a run whose loading has gone well, an obstacle says that the function fails, and that it does
not save files. -/
theorem Obstacle.function_fails {disk : Disk} {arguments : RunArguments}
    (obstacle : Obstacle disk arguments) {run : RunFile} {found : CatalogEntry}
    {entries : List Entry}
    (prepares : prepare .builtins disk arguments = .ok (run, found, entries)) :
    ∃ function ∈ builtinFunctions, found = function.entry ∧ function.key ≠ saveFiles.key ∧
      ∃ failure, (function.execute run.settings (.onMemory entries disk)).1 = .error failure := by
  obtain ⟨loads, finds, loadsEntries⟩ := prepare_ok prepares
  obtain ⟨opens, loadsRecords⟩ := loadEntries_ok loadsEntries
  cases obstacle with
  | runFile fails => cases loads.symm.trans fails
  | unknownFunction loaded unknown =>
      cases loads.symm.trans loaded
      cases finds.symm.trans unknown
  | closedFile listed fails =>
      obtain ⟨file, opened, _⟩ := opens _ listed
      cases opened.symm.trans fails
  | closedRecords given fails =>
      obtain ⟨records, loaded⟩ := loadsRecords _ given
      obtain ⟨_, _, found, _⟩ := loadRecords_ok loaded
      cases found.symm.trans fails
  | unreadRecords given found fails =>
      obtain ⟨records, reads⟩ := records_readable loadsEntries given found
      obtain ⟨noFault, lines⟩ := Ndjson.readLines_ok reads
      rcases fails with fails | listed
      · cases noFault.symm.trans fails
      · obtain ⟨_, same, _⟩ := lines _ listed
        cases same
  | noObject given found listed filled other =>
      obtain ⟨records, reads⟩ := records_readable loadsEntries given found
      obtain ⟨text, same, object⟩ := (Ndjson.readLines_ok reads).2 _ listed
      cases same
      obtain ⟨members, holds⟩ := object filled
      exact absurd holds (other members)
  | @unreadFile _ _ _ function _ listed opened fails asks reads =>
      obtain ⟨rfl, rfl⟩ := asks.entry loads finds
      obtain ⟨file, openedSame, member⟩ := opens _ listed
      cases openedSame.symm.trans opened
      exact ⟨function, asks.builtin, rfl, reads.saves_none,
        reads.execute_fails member (SourceFile.deliver_of_unread opened fails)⟩
  | @function function _ _ failure asks other loaded fails =>
      obtain ⟨rfl, rfl⟩ := asks.entry loads finds
      cases loadsEntries.symm.trans loaded
      exact ⟨function, asks.builtin, rfl, other, failure, fails⟩

/-- A run that meets an obstacle fails, and the disk is as it was: no output folder is made, and
nothing is written. -/
theorem obstructed_run_keeps_disk {given : List String} {arguments : RunArguments}
    (reads : readCommand given = some (.run arguments)) {disk : Disk}
    (obstacle : Obstacle disk arguments) :
    (execute given disk).code = 1 ∧ (execute given disk).disk = disk := by
  rw [execute, reads]
  show (runFunction .builtins disk arguments).code = 1 ∧
    (runFunction .builtins disk arguments).disk = disk
  rw [runFunction]
  rcases prepares : prepare .builtins disk arguments with message | ⟨run, found, entries⟩
  · exact ⟨rfl, rfl⟩
  · obtain ⟨function, builtin, rfl, other, failure, fails⟩ := obstacle.function_fails prepares
    have kept := execute_keepsDisk builtin other run.settings (.onMemory entries disk)
    rcases result : function.execute run.settings (.onMemory entries disk) with ⟨outcome, ended⟩
    rw [result] at fails kept
    obtain rfl : outcome = .error failure := fails
    have runs : function.entry.run 0 run.settings
        (.on (Session.inputsOf entries) disk .none) = (.error failure, ended) := result
    dsimp only
    rw [runs]
    exact ⟨rfl, kept⟩

/-- The records' third line holds a list, so even the function that saves files saves none. -/
theorem obstructed_run_keeps_disk_list_line :
    let run := "function: writeFileToDisk\nconfig:\n  destinationFolder: saved\n"
    let records := "\x7b\"a\":1\x7d\n\n[1]\n"
    let disk : Disk := ⟨[], [(["run.yaml"], .file (Utf8.encode run.toList)), (["x"], .file [1]),
      (["in"], .file (Utf8.encode records.toList))]⟩
    let ended := execute ["run", "-c", "run.yaml", "--file=x", "-r", "in", "-oout"] disk
    ended.code = 1 ∧ ended.disk = disk := by
  intro run records disk ended
  have reads : readCommand ["run", "-c", "run.yaml", "--file=x", "-r", "in", "-oout"] =
      some (.run ⟨"run.yaml", ["x"], some "in", "out"⟩) := by decide +kernel
  have finds : disk.find "in" = .ok (["in"], .file (Utf8.encode records.toList)) := by rfl
  have line : Json.read? "[1]".toList = some (.list [.int 1]) := by rfl
  have listed : .ok "[1]".toList ∈ (recordsDelivery disk "in" ["in"]).lines := by decide +kernel
  have obstacle : Obstacle disk ⟨"run.yaml", ["x"], some "in", "out"⟩ :=
    .noObject rfl finds listed (by decide) fun members object => nomatch line.symm.trans object
  exact obstructed_run_keeps_disk reads obstacle

end CommandLine

end Sluice
