import Sluice.Proofs.Flow.Run

/-!
# Runs on memory

On memory no call fails by plan, and what a run does depends on the output, the open file and the
disk alone.  Writing to a file succeeds there: the file holds what was written, a part of it
waiting, and it is published with all of it once it was flushed.
-/

set_option autoImplicit false

namespace Sluice

/-! ## Calls on memory -/

theorem Output.addRecord_open {output : Output} {port : String} {record : Record}
    (isOpen : output.closes = 0) : output.addRecord port record =
      .ok { output with recordPorts := addToPort port [record] output.recordPorts } := by
  simp [addRecord, checkOpen, isClosed, isOpen, bind, Except.bind]

theorem Output.openFile_open {output : Output} {port : String} (isOpen : output.closes = 0) :
    output.openFile port =
      .ok { output with filePorts := addToPort port [] output.filePorts } := by
  simp [openFile, checkOpen, isClosed, isOpen, bind, Except.bind]

/-- Writing a record never fails by plan. -/
def FaultPlan.Accepts (plan : FaultPlan) : Prop :=
  ∀ journal port, plan.ofPort journal (.writeRecord port) = .none

theorem FaultPlan.none_accepts : FaultPlan.none.Accepts := fun _ _ => rfl

structure FaultPlan.AcceptsFiles (plan : FaultPlan) : Prop where
  opens : ∀ journal port name, plan.ofPort journal (.newFile port name) = .none
  streams : ∀ journal made, plan.ofStream journal made = .none

theorem FaultPlan.none_acceptsFiles : FaultPlan.none.AcceptsFiles :=
  ⟨fun _ _ _ => rfl, fun _ _ => rfl⟩

namespace Run

variable {α β : Type}

theorem call_memory {made : PortCall} {action : Session → Outcome (α × Session)}
    {session : Session} (memory : session.plan = .none) :
    call made action session =
      match action session with
      | .error failure => (.error failure, noted made false session)
      | .ok (value, after) => (.ok value, noted made true after) := by
  refine call_unplanned ?_
  rw [memory]
  rfl

theorem stream_accepted {made : PortCall} {change : OpenFile → OpenFile} {session : Session}
    (accepts : session.plan.AcceptsFiles) :
    stream made change session = (.ok (.ok ()), noted made true (changed change session)) := by
  rcases stream_cases made change session with ⟨fault, planned, _⟩ | ⟨_, result⟩
  · cases planned.symm.trans (accepts.streams session.journal made)
  · exact result

theorem stream_memory {made : PortCall} {change : OpenFile → OpenFile} {session : Session}
    (memory : session.plan = .none) :
    stream made change session = (.ok (.ok ()), noted made true (changed change session)) :=
  stream_accepted (memory ▸ FaultPlan.none_acceptsFiles)

theorem writeRecord_accepted {session : Session} (accepts : session.plan.Accepts)
    (isOpen : session.output.closes = 0) (port : String) (record : Record) :
    writeRecord port record session =
      (.ok (), noted (.writeRecord port) true { session with
        output.recordPorts := addToPort port [record] session.output.recordPorts }) := by
  rw [writeRecord, call_unplanned (accepts session.journal port), Output.addRecord_open isOpen]
  rfl

theorem writeRecord_memory {port : String} {record : Record} {session : Session}
    (memory : session.plan = .none) (isOpen : session.output.closes = 0) :
    writeRecord port record session =
      (.ok (), noted (.writeRecord port) true { session with
        output.recordPorts := addToPort port [record] session.output.recordPorts }) :=
  writeRecord_accepted (memory ▸ FaultPlan.none_accepts) isOpen port record

theorem newFile_accepted {port name : String} {session : Session}
    (accepts : session.plan.AcceptsFiles) (isOpen : session.output.closes = 0) :
    newFile port name session =
      (.ok (), noted (.newFile port name) true { session with
        output.filePorts := addToPort port [] session.output.filePorts
        openFile? := some ⟨port, name, [], [], 0⟩ }) := by
  rw [newFile, call_unplanned (accepts.opens session.journal port name),
    Output.openFile_open isOpen]
  rfl

theorem newFile_memory {port name : String} {session : Session}
    (memory : session.plan = .none) (isOpen : session.output.closes = 0) :
    newFile port name session =
      (.ok (), noted (.newFile port name) true { session with
        output.filePorts := addToPort port [] session.output.filePorts
        openFile? := some ⟨port, name, [], [], 0⟩ }) :=
  newFile_accepted (memory ▸ FaultPlan.none_acceptsFiles) isOpen

theorem closeOutput_memory {session : Session} (memory : session.plan = .none) :
    closeOutput session =
      (.ok (), noted .close true { session with output := session.output.close }) := by
  rcases closeOutput_cases session with ⟨failure, planned, _⟩ | ⟨_, result⟩
  · rw [memory] at planned
    cases planned
  · exact result

theorem closeFile_memory {session : Session} (memory : session.plan = .none) {file : OpenFile}
    (isOpen : session.openFile? = some file) :
    closeFile session =
      (.ok (), noted .closeFile true { session with
        output := session.output.publish file.port ⟨file.name, file.bytes⟩
        openFile? := none }) := by
  rcases closeFile_cases isOpen with ⟨failure, planned, _⟩ | ⟨_, result⟩
  · rw [memory] at planned
    cases planned
  · exact result

end Run

/-! ## What a run depends on -/

namespace Session

structure Alike (first second : Session) : Prop where
  output : first.output = second.output
  openFile? : first.openFile? = second.openFile?
  disk : first.disk = second.disk
  memory : first.plan = .none
  other : second.plan = .none

theorem Alike.self {session : Session} (memory : session.plan = .none) : Alike session session :=
  ⟨rfl, rfl, rfl, memory, memory⟩

theorem Alike.symm {first second : Session} (alike : Alike first second) : Alike second first :=
  ⟨alike.output.symm, alike.openFile?.symm, alike.disk.symm, alike.other, alike.memory⟩

theorem Alike.trans {first second third : Session} (one : Alike first second)
    (two : Alike second third) : Alike first third :=
  ⟨one.output.trans two.output, one.openFile?.trans two.openFile?, one.disk.trans two.disk,
    one.memory, two.other⟩

end Session

namespace Run

variable {α β : Type}

/-- On memory the action neither sees nor touches the input, nor does it see the journal. -/
def Aside (action : Run α) : Prop :=
  ∀ first second : Session, first.Alike second →
    (action first).1 = (action second).1 ∧ (action first).2.Alike (action second).2 ∧
      (action first).2.inputs = first.inputs

theorem Aside.memory {action : Run α} (aside : Aside action) {before after : Session}
    {outcome : Outcome α} (memory : before.plan = .none)
    (result : action before = (outcome, after)) :
    after.plan = .none ∧ after.inputs = before.inputs := by
  obtain ⟨_, alike, inputs⟩ := aside before before (.self memory)
  rw [result] at alike inputs
  exact ⟨alike.memory, inputs⟩

theorem Aside.bind {action : Run α} {next : α → Run β} (one : Aside action)
    (rest : ∀ value, Aside (next value)) : Aside (action >>= next) := by
  intro first second alike
  obtain ⟨sameOutcome, alikeMiddle, sameInputs⟩ := one first second alike
  rw [bind_apply, bind_apply]
  rcases firstResult : action first with ⟨outcome, firstMiddle⟩
  rcases secondResult : action second with ⟨outcome', secondMiddle⟩
  rw [firstResult, secondResult] at sameOutcome alikeMiddle
  rw [firstResult] at sameInputs
  obtain rfl : outcome = outcome' := sameOutcome
  cases outcome with
  | error failure => exact ⟨rfl, alikeMiddle, sameInputs⟩
  | ok value =>
      obtain ⟨sameLast, alikeLast, inputsLast⟩ := rest value firstMiddle secondMiddle alikeMiddle
      exact ⟨sameLast, alikeLast, inputsLast.trans sameInputs⟩

theorem Aside.attempt {action : Run α} (aside : Aside action) : Aside (attempt action) := by
  intro first second alike
  obtain ⟨sameOutcome, alikeAfter, sameInputs⟩ := aside first second alike
  exact ⟨congrArg Except.ok sameOutcome, alikeAfter, sameInputs⟩

theorem aside_ofOutcome (outcome : Outcome α) : Aside (ofOutcome outcome) :=
  fun _ _ alike => ⟨rfl, alike, rfl⟩

theorem aside_pure (value : α) : Aside (pure value : Run α) := fun _ _ alike => ⟨rfl, alike, rfl⟩

theorem aside_deliver (file : SourceFile) : Aside (deliver file) := by
  intro first second alike
  rw [deliver_apply, deliver_apply, alike.disk]
  exact ⟨rfl, alike, rfl⟩

theorem aside_currentFile : Aside currentFile := by
  intro first second alike
  rw [currentFile_apply, currentFile_apply, alike.openFile?]
  exact ⟨rfl, alike, rfl⟩

theorem aside_modify {change : Session → Session}
    (respects : ∀ first second, first.Alike second → (change first).Alike (change second))
    (inputs : ∀ session, (change session).inputs = session.inputs) : Aside (modify change) :=
  fun first second alike => ⟨rfl, respects first second alike, inputs first⟩

theorem aside_call {made : PortCall} {action : Session → Outcome (α × Session)}
    (effect : Output → Option OpenFile → Outcome (α × Output × Option OpenFile))
    (acts : ∀ session, action session = (effect session.output session.openFile?).map fun result =>
      (result.1, { session with output := result.2.1, openFile? := result.2.2 })) :
    Aside (call made action) := by
  intro first second alike
  rw [call_memory alike.memory, call_memory alike.other, acts, acts, alike.output, alike.openFile?]
  cases effect second.output second.openFile? with
  | error failure => exact ⟨rfl, ⟨alike.output, alike.openFile?, alike.disk, alike.memory,
      alike.other⟩, rfl⟩
  | ok result => exact ⟨rfl, ⟨rfl, rfl, alike.disk, alike.memory, alike.other⟩, rfl⟩

theorem aside_stream (made : PortCall) (change : OpenFile → OpenFile) :
    Aside (stream made change) := by
  intro first second alike
  rw [stream_memory alike.memory, stream_memory alike.other]
  refine ⟨rfl, ⟨alike.output, ?_, alike.disk, alike.memory, alike.other⟩, rfl⟩
  exact congrArg (Option.map change) alike.openFile?

theorem aside_modifyFile (change : OpenFile → OpenFile) : Aside (modifyFile change) := by
  refine aside_modify ?_ fun session => rfl
  intro first second alike
  exact ⟨alike.output, congrArg (Option.map change) alike.openFile?, alike.disk, alike.memory,
    alike.other⟩

theorem aside_writeRecord (port : String) (record : Record) : Aside (writeRecord port record) := by
  refine aside_call (fun output file? =>
    (output.addRecord port record).map fun output => ((), output, file?)) ?_
  intro session
  cases session.output.addRecord port record <;> rfl

theorem aside_newFile (port name : String) : Aside (newFile port name) := by
  refine aside_call (fun output _ =>
    (output.openFile port).map fun output => ((), output, some ⟨port, name, [], [], 0⟩)) ?_
  intro session
  cases session.output.openFile port <;> rfl

theorem aside_closeFile : Aside closeFile := by
  refine aside_currentFile.bind fun file? => ?_
  cases file? with
  | none => exact aside_pure ()
  | some file =>
      refine Aside.bind (aside_modify ?_ fun session => rfl) fun _ => ?_
      · intro first second alike
        have published := congrArg
          (fun output => output.publish file.port ⟨file.name, file.bytes⟩) alike.output
        exact ⟨published, rfl, alike.disk, alike.memory, alike.other⟩
      · exact aside_call (fun output file? => .ok ((), output, file?)) fun session => rfl

theorem aside_writePending : Aside writePending := by
  refine aside_currentFile.bind fun file? => ?_
  cases file? with
  | none => exact aside_pure _
  | some file =>
      dsimp only
      split
      · exact aside_pure _
      · refine (aside_stream _ _).bind fun written => ?_
        cases written with
        | error fault => exact aside_pure _
        | ok value => exact (aside_modifyFile _).bind fun _ => aside_pure _

theorem aside_writePiece (piece : Bytes) : Aside (writePiece piece) := by
  refine aside_currentFile.bind fun file? => ?_
  cases file? with
  | none => exact aside_pure _
  | some file =>
      dsimp only
      split
      · exact (aside_modifyFile _).bind fun _ => aside_pure _
      · refine aside_writePending.bind fun written => ?_
        cases written with
        | error fault => exact aside_pure _
        | ok value => exact (aside_modifyFile _).bind fun _ => aside_pure _

theorem aside_writePieces (pieces : List Bytes) : Aside (writePieces pieces) := by
  induction pieces with
  | nil => exact aside_pure _
  | cons piece rest ih =>
      refine (aside_writePiece piece).bind fun written => ?_
      cases written with
      | error fault => exact aside_pure _
      | ok value => exact ih

theorem aside_flushFile : Aside flushFile := by
  refine aside_writePending.bind fun written => ?_
  cases written with
  | error fault => exact aside_pure _
  | ok value => exact aside_stream _ _

theorem aside_ofStream {wrap : StreamFault → Failure} (outcome : Except StreamFault α) :
    Aside (ofStream wrap outcome) := by
  cases outcome with
  | error fault => exact aside_ofOutcome _
  | ok value => exact aside_pure value

theorem aside_writeChunks (most : Nat) (bytes : Bytes) : Aside (writeChunks most bytes) := by
  induction most generalizing bytes with
  | zero => exact aside_pure _
  | succ most ih =>
      rw [writeChunks]
      split
      · exact aside_pure _
      · refine (aside_stream _ _).bind fun written => ?_
        cases written with
        | error fault => exact aside_pure _
        | ok value => exact ih _

theorem aside_copyDelivery (delivery : Delivery) : Aside (copyDelivery delivery) := by
  refine (aside_writeChunks _ _).bind fun written => ?_
  cases written with
  | error fault => exact aside_pure _
  | ok value =>
      dsimp only
      split <;> exact aside_pure _

theorem aside_copyInto (port name : String) (delivery : Delivery) :
    Aside (copyInto port name delivery) := by
  refine (aside_newFile port name).bind fun _ => ?_
  refine (aside_copyDelivery delivery).bind fun copied => ?_
  refine aside_closeFile.attempt.bind fun closed => ?_
  refine (aside_ofStream copied).bind fun size => ?_
  exact (aside_ofOutcome closed).bind fun _ => aside_pure size

end Run

end Sluice
