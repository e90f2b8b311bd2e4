import Sluice.Proofs.Flow.Copy
import Sluice.Proofs.Flow.Output
import Sluice.Proofs.Record

/-!
# The output as a log

An output on memory is used by writing records to it, by writing files to it one at a time, and by
closing it, in any order and any number of times.  What it holds can be read off the uses that
succeeded, and those are all that come before its first close.
-/

set_option autoImplicit false

namespace Sluice

/-- What is done with an output.  A file is opened, written piece by piece, and then published or
given up before the output can be used again. -/
inductive OutputUse where
  | record (port : String) (record : Record)
  | file (port name : String) (pieces : List Bytes) (publishes : Bool)
  | close

namespace OutputUse

def port? : OutputUse → Option String
  | record port _ => some port
  | file port _ _ _ => some port
  | close => none

def isClose : OutputUse → Bool
  | close => true
  | _ => false

def records : OutputUse → List (String × Record)
  | record port item => [(port, item)]
  | _ => []

def files : OutputUse → List (String × OutputFile)
  | file port name pieces true => [(port, ⟨name, pieces.flatten⟩)]
  | _ => []

/-- The port on which a file is opened, published or not. -/
def opens : OutputUse → List String
  | file port _ _ _ => [port]
  | _ => []

def writeAll : List Bytes → Run Unit
  | [] => pure ()
  | piece :: rest => do
    Run.ofStream .stream (← Run.writeBytes piece)
    writeAll rest

def run : OutputUse → Run Unit
  | record port item => Run.writeRecord port item
  | file port name pieces publishes => do
    Run.newFile port name
    writeAll pieces
    if publishes then Run.closeFile else Run.dropFile
  | close => Run.closeOutput

end OutputUse

abbrev OutputLog := List (OutputUse × Outcome Unit)

/-- Makes one use after the other; a use that fails does not keep the next from being made. -/
def OutputUse.runAll : List OutputUse → Run OutputLog
  | [] => pure []
  | use :: rest => do
    let outcome ← Run.attempt use.run
    let log ← runAll rest
    pure ((use, outcome) :: log)

namespace OutputLog

def succeeded (log : OutputLog) : List OutputUse := (log.filter (·.2.isOk)).map Prod.fst

def written (log : OutputLog) : List (String × Record) := log.succeeded.flatMap OutputUse.records

def published (log : OutputLog) : List (String × OutputFile) :=
  log.succeeded.flatMap OutputUse.files

def opened (log : OutputLog) : List String := log.succeeded.flatMap OutputUse.opens

def closings (log : OutputLog) : Nat := log.countP fun made => made.1.isClose

end OutputLog

/-- The items that came to a port. -/
def onPort {α : Type} (items : List (String × α)) (port : String) : List α :=
  (items.filter (·.1 = port)).map Prod.snd

/-- What an output holds: the records and the files of each port in order, the ports in the order
of their first use, and how often it was closed. -/
structure Output.Holds (output : Output) (written : List (String × Record))
    (published : List (String × OutputFile)) (opened : List String) (closings : Nat) : Prop where
  records : ∀ port, output.records port = onPort written port
  files : ∀ port, output.files port = onPort published port
  count : output.recordCount = written.length
  recordPorts : output.recordPorts.map Prod.fst = (written.map Prod.fst).eraseDups
  filePorts : output.filePorts.map Prod.fst = opened.eraseDups
  closes : output.closes = closings

def Output.HoldsLog (output : Output) (log : OutputLog) : Prop :=
  output.Holds log.written log.published log.opened log.closings

/-! ## The ports in the order of their first use -/

theorem map_fst_addToPort {α : Type} (port : String) (items : List α)
    (ports : List (String × List α)) :
    (addToPort port items ports).map Prod.fst =
      if port ∈ ports.map Prod.fst then ports.map Prod.fst
      else ports.map Prod.fst ++ [port] := by
  induction ports with
  | nil => simp [addToPort]
  | cons first rest ih =>
      obtain ⟨name, held⟩ := first
      by_cases hit : name = port
      · simp [addToPort, hit]
      · rw [addToPort, if_neg hit, List.map_cons, ih, List.map_cons]
        by_cases listed : port ∈ rest.map Prod.fst
        · simp [listed]
        · simp [listed, Ne.symm hit]

/-- A port comes last among those listed, unless it is listed already. -/
theorem map_fst_addToPort_of_eraseDups {α : Type} {ports : List (String × List α)}
    {names : List String} (listed : ports.map Prod.fst = names.eraseDups) (port : String)
    (items : List α) :
    (addToPort port items ports).map Prod.fst = (names ++ [port]).eraseDups := by
  rw [map_fst_addToPort, eraseDups_concat, listed]
  simp only [List.mem_eraseDups]

/-- An item that is added to a port comes last among those of the port. -/
theorem lookup_addToPort_of_onPort {α : Type} {ports : List (String × List α)}
    {items : List (String × α)}
    (held : ∀ port, (ports.lookup port).getD [] = onPort items port) (port : String) (item : α)
    (other : String) :
    ((addToPort port [item] ports).lookup other).getD [] =
      onPort (items ++ [(port, item)]) other := by
  rw [lookup_addToPort, held, onPort, onPort, List.filter_append, List.map_append]
  by_cases same : other = port
  · simp [same]
  · simp [same, Ne.symm same]

/-! ## One use -/

namespace OutputUse

variable {session : Session}

theorem writeAll_memory (memory : session.plan = .none) (pieces : List Bytes) :
    ∃ after, writeAll pieces session = (.ok (), after) ∧
      session.Appends pieces.flatten after := by
  induction pieces generalizing session with
  | nil => exact ⟨session, rfl, .nothing session⟩
  | cons piece rest ih =>
      obtain ⟨middle, writes, first⟩ := Run.writeBytes_memory memory piece
      obtain ⟨after, writesRest, second⟩ := ih (first.plan.trans memory)
      exact ⟨after, (Run.bind_of_ok writes).trans writesRest, first.trans second⟩

def change (output : Output) : OutputUse → Output
  | record port item =>
    { output with recordPorts := addToPort port [item] output.recordPorts }
  | file port name pieces true => output.publish port ⟨name, pieces.flatten⟩
  | file port _ _ false => { output with filePorts := addToPort port [] output.filePorts }
  | close => output.close

/-- An output that is open takes every use. -/
theorem run_open (memory : session.plan = .none) (isOpen : session.output.closes = 0)
    (use : OutputUse) :
    ∃ after, use.run session = (.ok (), after) ∧ after.plan = .none ∧
      after.output = use.change session.output := by
  cases use with
  | record port item =>
      exact ⟨_, Run.writeRecord_memory memory isOpen, memory, rfl⟩
  | close => exact ⟨_, Run.closeOutput_memory memory, memory, rfl⟩
  | file port name pieces publishes =>
      have opens : Run.newFile port name session = (.ok (), Run.opened port name session) :=
        Run.newFile_memory memory isOpen
      have plan : (Run.opened port name session).plan = .none := memory
      obtain ⟨filled, fills, appends⟩ := writeAll_memory plan pieces
      rw [run, Run.bind_of_ok opens, Run.bind_of_ok fills]
      cases publishes with
      | false => exact ⟨_, rfl, appends.plan.trans memory, appends.output⟩
      | true =>
          obtain ⟨after, closes, same, _, published⟩ := Run.closeFile_opened memory appends
          exact ⟨after, closes, same, published⟩

/-- An output that is closed refuses what is written to a port, and stays as it is. -/
theorem run_closed (memory : session.plan = .none) (closed : session.output.closes ≠ 0)
    {use : OutputUse} {port : String} (writes : use.port? = some port) :
    ∃ after, use.run session = (.error (.port port "write after close"), after) ∧
      after.plan = .none ∧ after.output = session.output := by
  have refused : session.output.checkOpen port = .error (.port port "write after close") := by
    simp [Output.checkOpen, Output.isClosed, Output.writeAfterClose, Nat.pos_of_ne_zero closed]
  cases use with
  | close => cases writes
  | record other item =>
      obtain rfl := Option.some.inj writes
      refine ⟨Run.noted (.writeRecord other) false session, ?_, memory, rfl⟩
      rw [run, Run.writeRecord, Run.call_memory memory, Output.addRecord, refused]
      rfl
  | file other name pieces publishes =>
      obtain rfl := Option.some.inj writes
      refine ⟨Run.noted (.newFile other name) false session, ?_, memory, rfl⟩
      rw [run]
      refine Run.bind_of_error ?_
      rw [Run.newFile, Run.call_memory memory, Output.openFile, refused]
      rfl

end OutputUse

/-! ## Many uses -/

namespace Output

theorem HoldsLog.empty : Output.empty.HoldsLog [] :=
  ⟨fun _ => rfl, fun _ => rfl, rfl, rfl, rfl, rfl⟩

variable {output : Output}

theorem Holds.change {written : List (String × Record)} {published : List (String × OutputFile)}
    {opened : List String} {closings : Nat}
    (holds : output.Holds written published opened closings) (use : OutputUse) :
    (use.change output).Holds (written ++ use.records) (published ++ use.files)
      (opened ++ use.opens) (closings + if use.isClose then 1 else 0) := by
  obtain ⟨records, files, count, recordPorts, filePorts, closes⟩ := holds
  cases use with
  | record port item =>
      simp only [OutputUse.records, OutputUse.files, OutputUse.opens, List.append_nil]
      refine ⟨lookup_addToPort_of_onPort records port item, files, ?_, ?_, filePorts, closes⟩
      · rw [List.length_append, ← count]
        exact foldl_count_addToPort port item output.recordPorts 0
      · rw [List.map_append]
        exact map_fst_addToPort_of_eraseDups recordPorts port [item]
  | file port name pieces publishes =>
      simp only [OutputUse.records, OutputUse.opens, List.append_nil]
      have listed (items : List OutputFile) :=
        map_fst_addToPort_of_eraseDups filePorts port items
      cases publishes with
      | true =>
          exact ⟨records, lookup_addToPort_of_onPort files port _, count, recordPorts, listed _,
            closes⟩
      | false =>
          simp only [OutputUse.files, List.append_nil]
          refine ⟨records, fun other => ?_, count, recordPorts, listed [], closes⟩
          rw [← files, Output.files, OutputUse.change, lookup_addToPort, ite_self, List.append_nil,
            Output.files]
  | close =>
      simp only [OutputUse.records, OutputUse.files, OutputUse.opens, List.append_nil]
      exact ⟨records, files, count, recordPorts, filePorts, congrArg (· + 1) closes⟩

theorem HoldsLog.taken {log : OutputLog} (holds : output.HoldsLog log) (use : OutputUse) :
    (use.change output).HoldsLog (log ++ [(use, .ok ())]) := by
  have logged : OutputLog.succeeded (log ++ [(use, .ok ())]) = log.succeeded ++ [use] := by
    simp [OutputLog.succeeded, Except.isOk, Except.toBool]
  have closings : OutputLog.closings (log ++ [(use, .ok ())]) =
      log.closings + if use.isClose then 1 else 0 := by
    simp [OutputLog.closings, List.countP_append, List.countP_singleton]
  have holdsMore := Holds.change holds use
  simpa [HoldsLog, OutputLog.written, OutputLog.published, OutputLog.opened, logged, closings]
    using holdsMore

theorem HoldsLog.refused {log : OutputLog} (holds : output.HoldsLog log) {use : OutputUse}
    {port : String} (writes : use.port? = some port) (failure : Failure) :
    output.HoldsLog (log ++ [(use, .error failure)]) := by
  have logged : OutputLog.succeeded (log ++ [(use, .error failure)]) = log.succeeded := by
    simp [OutputLog.succeeded, Except.isOk, Except.toBool]
  have closings : OutputLog.closings (log ++ [(use, .error failure)]) = log.closings := by
    cases use with
    | close => cases writes
    | _ => simp [OutputLog.closings, OutputUse.isClose]
  simpa only [HoldsLog, OutputLog.written, OutputLog.published, OutputLog.opened, logged, closings]
    using holds

end Output

namespace OutputUse

/-- Whatever has been logged so far, the next uses are logged behind it. -/
theorem runAll_holds {session : Session} (memory : session.plan = .none) {log : OutputLog}
    (holds : session.output.HoldsLog log) (uses : List OutputUse) :
    ∃ more after, runAll uses session = (.ok more, after) ∧ more.map Prod.fst = uses ∧
      after.plan = .none ∧ after.output.HoldsLog (log ++ more) := by
  -- The log so far is any that the output holds, so that the induction goes on behind each use.
  induction uses generalizing session log with
  | nil => exact ⟨[], session, rfl, rfl, memory, by rwa [List.append_nil]⟩
  | cons use rest ih =>
      have once : ∃ outcome middle, use.run session = (outcome, middle) ∧ middle.plan = .none ∧
          middle.output.HoldsLog (log ++ [(use, outcome)]) := by
        by_cases isOpen : session.output.closes = 0
        · obtain ⟨middle, runs, plan, output⟩ := run_open memory isOpen use
          exact ⟨_, middle, runs, plan, output ▸ holds.taken use⟩
        · cases writes : use.port? with
          | some port =>
              obtain ⟨middle, runs, plan, output⟩ := run_closed memory isOpen writes
              exact ⟨_, middle, runs, plan, output ▸ holds.refused writes _⟩
          | none =>
              cases use with
              | close => exact ⟨_, _, Run.closeOutput_memory memory, memory, holds.taken .close⟩
              | record | file => cases writes
      obtain ⟨outcome, middle, runs, plan, holdsOnce⟩ := once
      obtain ⟨more, after, runsRest, whole, planAfter, holdsRest⟩ := ih plan holdsOnce
      refine ⟨(use, outcome) :: more, after, ?_, congrArg _ whole, planAfter, ?_⟩
      · rw [runAll, Run.attempt_bind, runs, Run.bind_of_ok runsRest]
        rfl
      · rwa [List.append_assoc] at holdsRest

end OutputUse

theorem closings_eq_zero_iff {log : OutputLog} :
    log.closings = 0 ↔ ∀ use ∈ log.map Prod.fst, use.isClose = false := by
  simp [OutputLog.closings, List.countP_eq_zero]

/-- However an output on memory is used, it holds what the log of the uses tells.  As long as it was
not closed it takes any further use; once it was, whatever is written to a port is refused for that
port, and nothing changes. -/
theorem output_holds_its_log (inputs : List (String × InputPort)) (disk : Disk)
    (uses : List OutputUse) :
    ∃ log final, OutputUse.runAll uses (.on inputs disk .none) = (.ok log, final) ∧
      log.map Prod.fst = uses ∧ final.output.HoldsLog log ∧
      ∀ use : OutputUse,
        ((∀ earlier ∈ uses, earlier.isClose = false) → (use.run final).1 = .ok ()) ∧
        ((∃ earlier ∈ uses, earlier.isClose = true) → ∀ port, use.port? = some port →
          (use.run final).1 = .error (.port port "write after close") ∧
            (use.run final).2.output = final.output) := by
  have begins : (Session.on inputs disk .none).output.HoldsLog [] := .empty
  obtain ⟨log, final, runs, whole, plan, holds⟩ := OutputUse.runAll_holds rfl begins uses
  have isOpen : final.output.closes = 0 ↔ ∀ earlier ∈ uses, earlier.isClose = false := by
    rw [holds.closes, List.nil_append, closings_eq_zero_iff, whole]
  refine ⟨log, final, runs, whole, holds, fun use => ⟨fun never => ?_, fun once port writes => ?_⟩⟩
  · obtain ⟨after, result, _⟩ := OutputUse.run_open plan (isOpen.2 never) use
    rw [result]
  · have closed : final.output.closes ≠ 0 := by
      intro still
      obtain ⟨earlier, member, closes⟩ := once
      rw [isOpen.1 still earlier member] at closes
      cases closes
    obtain ⟨after, result, _, output⟩ := OutputUse.run_closed plan closed writes
    rw [result]
    exact ⟨rfl, output⟩

/-- A file is given up and another one published, the output is closed twice, and a record comes
between the two. -/
theorem output_holds_its_log_closed :
    let uses : List OutputUse := [.record "a" .empty, .file "b" "x" [[1], [2]] true,
      .file "c" "y" [[3]] false, .close, .record "d" .empty, .close]
    let later : OutputUse := .file "b" "z" [] true
    ((∃ earlier ∈ uses, earlier.isClose = true) ∧ later.port? = some "b") ∧
      ∃ final, (∃ log, OutputUse.runAll uses (.on [] .empty .none) = (.ok log, final)) ∧
        final.output.records "a" = [.empty] ∧ final.output.files "b" = [⟨"x", [1, 2]⟩] ∧
        final.output.recordPorts.map Prod.fst = ["a"] ∧ final.output.closes = 2 ∧
        (later.run final).1 = .error (.port "b" "write after close") := by
  intro uses later
  have closed : ∃ earlier ∈ uses, earlier.isClose = true := ⟨.close, by simp [uses], rfl⟩
  obtain ⟨log, final, runs, _, _, next⟩ := output_holds_its_log [] .empty uses
  obtain ⟨refused, _⟩ := (next later).2 closed "b" rfl
  obtain rfl := (Prod.mk.inj runs).2
  exact ⟨⟨closed, rfl⟩, _, ⟨log, runs⟩, rfl, rfl, rfl, rfl, refused⟩

end Sluice
