import Sluice.Proofs.Flow.Copy
import Sluice.Proofs.Routing

/-!
# The file router copies files whole

A file goes to the port of the first condition that is true of its name, and comes out there under
its name with the bytes that its reader delivers.  The first file whose reader fails is published as
far as it was read and ends the run; the first one for which a condition fails ends it unpublished.
-/

set_option autoImplicit false

namespace Sluice

open Run

def RouteTable.Picks (table : RouteTable) (file : SourceFile) (port : String) : Prop :=
  table.Chooses (Script.fileRecord file.name) port

def RouteTable.Decides (table : RouteTable) (file : SourceFile) : Prop :=
  ∀ failure, ¬ table.Breaks (Script.fileRecord file.name) failure

instance (table : RouteTable) (file : SourceFile) (port : String) :
    Decidable (table.Picks file port) :=
  decidable_of_iff (table.choose (Script.fileRecord file.name) = .ok port) RouteTable.choose_eq_ok

def SourceFile.copy (disk : Disk) (file : SourceFile) : OutputFile :=
  ⟨file.name, (file.deliver disk).bytes⟩

/-- The copies of the files that are sent to a port, in the order of the files. -/
def RouteTable.copiesOn (table : RouteTable) (disk : Disk) (files : List SourceFile)
    (port : String) : List OutputFile :=
  (files.filter (table.Picks · port)).map (SourceFile.copy disk)

structure RouteTable.Copied (table : RouteTable) (disk : Disk) (files : List SourceFile)
    (before after : Output) : Prop where
  closes : after.closes = before.closes
  files : ∀ port, after.files port = before.files port ++ table.copiesOn disk files port

namespace RouteTable

variable {table : RouteTable} {disk : Disk} {file : SourceFile}

theorem Copied.nothing (output : Output) : table.Copied disk [] output output where
  closes := rfl
  files _ := (List.append_nil _).symm

theorem Copied.append {first second : List SourceFile} {before middle after : Output}
    (one : table.Copied disk first before middle) (two : table.Copied disk second middle after) :
    table.Copied disk (first ++ second) before after where
  closes := two.closes.trans one.closes
  files port := by
    rw [two.files, one.files, List.append_assoc, copiesOn, copiesOn, copiesOn, List.filter_append,
      List.map_append]

theorem decides_iff : table.Decides file ↔ ∃ port, table.Picks file port := by
  constructor
  · intro decides
    cases found : table.choose (Script.fileRecord file.name) with
    | ok port => exact ⟨port, choose_eq_ok.1 found⟩
    | error failure => exact absurd (choose_eq_error.1 found) (decides failure)
  · rintro ⟨port, picks⟩ failure breaks
    cases (choose_eq_ok.2 picks).symm.trans (choose_eq_error.2 breaks)

theorem Picks.unique {port other : String} (picks : table.Picks file port)
    (picksOther : table.Picks file other) : port = other :=
  Except.ok.inj ((choose_eq_ok.2 picks).symm.trans (choose_eq_ok.2 picksOther))

theorem Picks.copied {port : String} (picks : table.Picks file port) (output : Output) :
    table.Copied disk [file] output (output.publish port (file.copy disk)) where
  closes := rfl
  files other := by
    rw [Output.files, Output.publish, lookup_addToPort, ← Output.files, copiesOn]
    by_cases same : other = port
    · subst same
      simp [picks]
    · have elsewhere : ¬ table.Picks file other := fun picksOther =>
        same (picksOther.unique picks)
      simp [same, elsewhere]

end RouteTable

/-! ## Handling one file -/

structure CompiledRouting.Follows (compiled : CompiledRouting) (table : RouteTable) : Prop where
  chooses : ∀ name, compiled.portOfFile name = table.choose (Script.fileRecord name)

theorem ConditionRouting.compile_follows {routing : ConditionRouting} {compiled : CompiledRouting}
    (compiles : routing.compile = .ok compiled) : compiled.Follows routing.table :=
  ⟨fun name => portOfRecord_eq compiles (Script.fileRecord name)⟩

/-- What handling a file comes to once its port is known: the fault of its reader, if it has one. -/
def SourceFile.outcome (disk : Disk) (file : SourceFile) : Outcome Unit :=
  match (file.deliver disk).fault with
  | some fault => .error (.stream fault)
  | none => .ok ()

section Handling

variable {compiled : CompiledRouting} {table : RouteTable} {session : Session} {file : SourceFile}

theorem CompiledRouting.Follows.handle_picked (follows : compiled.Follows table)
    (memory : session.plan = .none) (isOpen : session.output.closes = 0) {port : String}
    (picks : table.Picks file port) :
    ∃ after, compiled.handleFile (.file file) session = (file.outcome session.disk, after) ∧
      after.disk = session.disk ∧
      table.Copied session.disk [file] session.output after.output := by
  obtain ⟨after, copies, _, disk, output⟩ :=
    copyInto_memory memory isOpen port file.name (file.deliver session.disk)
  have chosen : compiled.portOfFile file.name = .ok port :=
    (follows.chooses file.name).trans (RouteTable.choose_eq_ok.2 picks)
  refine ⟨after, ?_, disk, output ▸ picks.copied session.output⟩
  rw [handleFile, Entry.asFile, ofOutcome_ok_bind, chosen, ofOutcome_ok_bind,
    bind_of_ok (deliver_apply file session), bind_apply, copies, copyOutcome, SourceFile.outcome]
  cases (file.deliver session.disk).fault <;> rfl

theorem CompiledRouting.Follows.handle_broken (follows : compiled.Follows table) {failure : Failure}
    (breaks : table.Breaks (Script.fileRecord file.name) failure) :
    compiled.handleFile (.file file) session = (.error failure, session) := by
  have fails : compiled.portOfFile file.name = .error failure :=
    (follows.chooses file.name).trans (RouteTable.choose_eq_error.2 breaks)
  rw [handleFile, Entry.asFile, ofOutcome_ok_bind, fails]
  rfl

end Handling

/-! ## Handling one file after the other -/

theorem Handles.append {handle : Entry → Run Unit} {before middle after : Session}
    {log more : HandlingLog} (first : Handles handle before log middle)
    (second : Handles handle middle more after) : Handles handle before (log ++ more) after := by
  induction first with
  | done session => exact second
  | entry takes handled rest ih => exact .entry takes handled (ih second)

/-- After handlings that are all fine, a failure that is not skipped ends the draining. -/
theorem Drained.ended {policy : Settings.EntryPolicy} {log : HandlingLog} {entry : Entry}
    {failure : Failure} (fine : log.Failing (Run.skips policy))
    (fatal : Run.skips policy failure = false) (later : List Entry) :
    Drained policy (log.entries ++ entry :: later) (log ++ [(entry, .error failure)])
      (.error failure) := by
  induction log with
  | nil => exact .stops entry later fatal
  | cons handling rest ih =>
      refine .goesOn handling.1 (fun other same => ?_) (ih fun other found member => ?_)
      · exact fine handling.1 other (by rw [← same]; exact List.mem_cons_self ..)
      · exact fine other found (List.mem_cons_of_mem _ member)

structure RouteTable.Carries (table : RouteTable) (disk : Disk) (file : SourceFile) : Prop where
  decides : table.Decides file
  whole : (file.deliver disk).fault = none

def carriedLog (files : List SourceFile) : HandlingLog := files.map fun file => (.file file, .ok ())

theorem carriedLog_entries (files : List SourceFile) :
    (carriedLog files).entries = files.map .file := by
  simp [carriedLog, HandlingLog.entries]

theorem carriedLog_failing (condition : Failure → Bool) (files : List SourceFile) :
    (carriedLog files).Failing condition := by
  intro entry failure member
  simp [carriedLog] at member

section Draining

variable {compiled : CompiledRouting} {table : RouteTable} {disk : Disk}

theorem CompiledRouting.Follows.handles (follows : compiled.Follows table)
    {files : List SourceFile} (carries : ∀ file ∈ files, table.Carries disk file)
    {rest : List Entry} {before : Session} (offers : before.Offers (files.map .file ++ rest))
    (isOpen : before.output.closes = 0) (sameDisk : before.disk = disk) :
    ∃ after, Handles compiled.handleFile before (carriedLog files) after ∧ after.Offers rest ∧
      after.disk = disk ∧ table.Copied disk files before.output after.output := by
  induction files generalizing before with
  | nil => exact ⟨before, .done before, offers, sameDisk, .nothing before.output⟩
  | cons file others ih =>
      obtain ⟨taken, takes, offersTaken, alike⟩ := offers.next
      have takenDisk : taken.disk = disk := alike.disk.symm.trans sameDisk
      obtain ⟨decides, whole⟩ := carries file (List.mem_cons_self ..)
      obtain ⟨port, picks⟩ := RouteTable.decides_iff.1 decides
      obtain ⟨middle, handled, middleDisk, copied⟩ :=
        follows.handle_picked offersTaken.memory (alike.output ▸ isOpen) picks
      rw [takenDisk] at handled middleDisk copied
      have fine : file.outcome disk = .ok () := by rw [SourceFile.outcome, whole]
      have offersMiddle := offersTaken.after ((HandlesAlone.ofFiles compiled).aside _) handled
      rw [← alike.output] at copied
      obtain ⟨after, handles, offersRest, afterDisk, copiedRest⟩ :=
        ih (fun other member => carries other (List.mem_cons_of_mem _ member)) offersMiddle
          (copied.closes.trans isOpen) middleDisk
      exact ⟨after, .entry takes (fine ▸ handled) handles, offersRest, afterDisk,
        copied.append copiedRest⟩

/-- Once a handling fails after files that were not to fail, it ends the draining. -/
theorem CompiledRouting.Follows.handles_until (follows : compiled.Follows table)
    {files : List SourceFile} (carries : ∀ file ∈ files, table.Carries disk file)
    {file : SourceFile} {later : List SourceFile} {before : Session}
    (offers : before.Offers ((files ++ file :: later).map .file))
    (isOpen : before.output.closes = 0) (sameDisk : before.disk = disk) {failure : Failure}
    {gained : List SourceFile}
    (fails : ∀ taken : Session, taken.plan = .none → taken.output.closes = 0 → taken.disk = disk →
      ∃ after, compiled.handleFile (.file file) taken = (.error failure, after) ∧
        table.Copied disk gained taken.output after.output) :
    ∃ after, Handles compiled.handleFile before
        (carriedLog files ++ [(.file file, .error failure)]) after ∧
      table.Copied disk (files ++ gained) before.output after.output := by
  rw [List.map_append, List.map_cons] at offers
  obtain ⟨middle, handles, offersEntry, middleDisk, copied⟩ :=
    follows.handles carries offers isOpen sameDisk
  obtain ⟨taken, takes, offersLater, alike⟩ := offersEntry.next
  obtain ⟨after, handled, copiedLast⟩ := fails taken offersLater.memory
    (alike.output ▸ copied.closes.trans isOpen) (alike.disk.symm.trans middleDisk)
  rw [← alike.output] at copiedLast
  exact ⟨after, handles.append (.entry takes handled (.done after)), copied.append copiedLast⟩

end Draining

/-! ## The run of the file router -/

/-- A run comes to an outcome, and what is on its output are the copies of some files. -/
structure RouteTable.Delivers (table : RouteTable) (disk : Disk) (copied : List SourceFile)
    (outcome : Outcome Unit) (run : Outcome Unit × Session) : Prop where
  outcome : run.1 = outcome
  files : ∀ port, run.2.output.files port = table.copiesOn disk copied port

/-- The file router runs as any log tells by which its input can be drained. -/
theorem routeFiles_delivers {settings : Settings} {routing : ConditionRouting}
    {compiled : CompiledRouting} (read : ConditionRouting.ofSettings settings = .ok routing)
    (compiles : routing.compile = .ok compiled) (strict : settings.entryPolicy = .ok .fail)
    {entries : List Entry} {disk : Disk} {log : HandlingLog} {outcome : Outcome Unit}
    {copied : List SourceFile} (drained : Drained .fail entries log outcome)
    (handles : ∀ opened : Session, opened.Offers entries → opened.output.closes = 0 →
      opened.disk = disk → ∃ after, Handles compiled.handleFile opened log after ∧
        routing.table.Copied disk copied opened.output after.output) :
    routing.table.Delivers disk copied outcome
      (routeFiles.execute settings (.onMemory entries disk)) := by
  have settled : routeFiles.settle settings = .ok (.handling .fail compiled.handleFile) :=
    ConditionRouting.settle_eq_ok.2 ⟨routing, .fail, compiled, read, strict, compiles, rfl⟩
  obtain ⟨led, opened, log', outcome', after', runs⟩ :=
    ((HandlesAlone.ofFiles compiled).steady .fail).runs entries disk
  obtain ⟨begins, ends⟩ := runs.handling_output
  obtain ⟨_, rfl⟩ := Prod.mk.inj (show (Except.ok (), Session.onMemory entries disk) = _ from
    runs.leads)
  obtain ⟨after, handled, gains⟩ :=
    handles opened runs.offers (begins ▸ rfl) runs.alike.disk.symm
  obtain ⟨rfl, rfl⟩ := drained.unique handled runs.drained runs.handles
  rw [begins] at gains
  rw [BuiltinFunction.execute, settled]
  exact ⟨runs.outcome_eq, fun port => by rw [ends]; exact gains.files port⟩

/-- Files for which neither a condition nor their reader fails come out whole, on the ports chosen
for them, in order and under their names.  They do so as well if they come before a file whose
reader fails, and then its fault is the outcome and it comes out as far as it was read; or before
one for which a condition fails, and then that failure is the outcome.  Nothing else comes out. -/
theorem files_routed_whole {settings : Settings} {routing : ConditionRouting}
    {compiled : CompiledRouting} (read : ConditionRouting.ofSettings settings = .ok routing)
    (compiles : routing.compile = .ok compiled) (strict : settings.entryPolicy = .ok .fail)
    (disk : Disk) {files : List SourceFile}
    (carries : ∀ file ∈ files, routing.table.Carries disk file) :
    let run (files : List SourceFile) :=
      routeFiles.execute settings (.onMemory (files.map .file) disk)
    routing.table.Delivers disk files (.ok ()) (run files) ∧
    ∀ (file : SourceFile) (later : List SourceFile),
      (∀ fault, routing.table.Decides file → (file.deliver disk).fault = some fault →
        routing.table.Delivers disk (files ++ [file]) (.error (.stream fault))
          (run (files ++ file :: later))) ∧
      ∀ failure, routing.table.Breaks (Script.fileRecord file.name) failure →
        routing.table.Delivers disk files (.error failure) (run (files ++ file :: later)) := by
  have follows := ConditionRouting.compile_follows compiles
  have fine := carriedLog_failing (skips .fail) files
  have ended (file : SourceFile) (later : List SourceFile) (failure : Failure) :
      Drained .fail ((files ++ file :: later).map .file)
        (carriedLog files ++ [(.file file, .error failure)]) (.error failure) := by
    rw [List.map_append, List.map_cons, ← carriedLog_entries]
    exact .ended fine rfl _
  refine ⟨?_, fun file later => ⟨fun fault decides fails => ?_, fun failure breaks => ?_⟩⟩
  · refine routeFiles_delivers read compiles strict
      (drained_ok_iff.2 ⟨carriedLog_entries files, fine⟩) fun opened offers isOpen sameDisk => ?_
    rw [← List.append_nil (files.map _)] at offers
    obtain ⟨after, handles, _, _, copied⟩ := follows.handles carries offers isOpen sameDisk
    exact ⟨after, handles, copied⟩
  · obtain ⟨port, picks⟩ := RouteTable.decides_iff.1 decides
    refine routeFiles_delivers read compiles strict (ended file later _)
      fun opened offers isOpen sameDisk => ?_
    refine follows.handles_until carries offers isOpen sameDisk fun taken memory isOpen same => ?_
    obtain ⟨after, handled, _, copied⟩ := follows.handle_picked memory isOpen picks
    rw [same] at handled copied
    rw [SourceFile.outcome, fails] at handled
    exact ⟨after, handled, copied⟩
  · refine routeFiles_delivers read compiles strict (ended file later _)
      fun opened offers isOpen sameDisk => ?_
    have handled := follows.handles_until carries offers isOpen sameDisk fun taken _ _ _ =>
      ⟨taken, follows.handle_broken breaks, .nothing taken.output⟩
    rwa [List.append_nil] at handled

/-- Of two files of one name both come out, and of a third that much which was read. -/
theorem files_routed_whole_broken_reader :
    let text : Json := .object
      [("jsCondition", .text "extension === 'txt'"), ("outputPort", .text "text")]
    let settings : Settings := [("defaultOutputPort", .text "other"), ("rules", .list [text])]
    let files : List SourceFile :=
      [.ofBytes "a.TXT" [1, 2], .ofBytes "b.bin" [0, 159], .ofBytes "a.TXT" []]
    let broken : SourceFile := ⟨"c.txt", .held ⟨[3], some (.told "lost")⟩⟩
    let run := routeFiles.execute settings (.onMemory
      ((files ++ broken :: [.ofBytes "d.txt" [4]]).map .file) .empty)
    run.1 = .error (.stream (.told "lost")) ∧
      run.2.output.files "text" = [⟨"a.TXT", [1, 2]⟩, ⟨"a.TXT", []⟩, ⟨"c.txt", [3]⟩] ∧
        run.2.output.files "other" = [⟨"b.bin", [0, 159]⟩] := by
  intro text settings files broken run
  let routing : ConditionRouting := ⟨"other", [⟨"extension === 'txt'", "text"⟩]⟩
  have accepted : routing.compile.isOk = true := by decide +kernel
  rcases compiles : routing.compile with _ | compiled
  · rw [compiles] at accepted
    cases accepted
  have picks : ∀ file ∈ files, ∃ port ∈ ["text", "other"], routing.table.Picks file port := by
    decide +kernel
  have whole : ∀ file ∈ files, (file.deliver .empty).fault = none := by decide
  have carries : ∀ file ∈ files, routing.table.Carries .empty file := by
    intro file member
    obtain ⟨port, _, picked⟩ := picks file member
    exact ⟨RouteTable.decides_iff.2 ⟨port, picked⟩, whole file member⟩
  have decides : routing.table.Decides broken :=
    RouteTable.decides_iff.2 ⟨"text", by decide +kernel⟩
  have reads : ConditionRouting.ofSettings settings = .ok routing := rfl
  have delivers := ((files_routed_whole reads compiles rfl .empty carries).2
    broken [.ofBytes "d.txt" [4]]).1 (.told "lost") decides rfl
  exact ⟨delivers.outcome, (delivers.files _).trans (by decide +kernel),
    (delivers.files _).trans (by decide +kernel)⟩

end Sluice
