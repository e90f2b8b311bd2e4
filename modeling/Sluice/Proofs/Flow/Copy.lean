import Sluice.Proofs.Flow.Memory

/-!
# Copying into a file

On memory, what is written straight to the open file stands at its end.  A copy publishes what its
reader has delivered, all of it or what came before a fault, and the fault comes after that.
-/

set_option autoImplicit false

namespace Sluice

/-! ## Publishing -/

theorem addToPort_addToPort {α : Type} (port : String) (items more : List α)
    (ports : List (String × List α)) :
    addToPort port more (addToPort port items ports) = addToPort port (items ++ more) ports := by
  induction ports with
  | nil => simp [addToPort]
  | cons first rest ih =>
      obtain ⟨name, held⟩ := first
      by_cases hit : name = port
      · simp [addToPort, hit]
      · simp [addToPort, hit, ih]

/-- A file that is published leaves no trace of having been opened before. -/
theorem Output.publish_opened (output : Output) (port : String) (file : OutputFile) :
    publish { output with filePorts := addToPort port [] output.filePorts } port file =
      output.publish port file := by
  rw [publish, addToPort_addToPort, List.nil_append, publish]

/-! ## Writing straight to a file -/

def OpenFile.add (bytes : Bytes) (file : OpenFile) : OpenFile :=
  { file with bytes := file.bytes ++ bytes }

theorem OpenFile.add_nil : OpenFile.add [] = id := by
  funext file
  simp [add]

theorem OpenFile.add_append (first second : Bytes) :
    OpenFile.add (first ++ second) = OpenFile.add second ∘ OpenFile.add first := by
  funext file
  simp [add]

namespace Session

structure Appends (bytes : Bytes) (before after : Session) : Prop where
  output : after.output = before.output
  disk : after.disk = before.disk
  plan : after.plan = before.plan
  file : after.openFile? = before.openFile?.map (.add bytes)

theorem Appends.nothing (session : Session) : Appends [] session session where
  output := rfl
  disk := rfl
  plan := rfl
  file := by rw [OpenFile.add_nil, Option.map_id_fun, id]

theorem Appends.trans {first second : Bytes} {before middle after : Session}
    (one : Appends first before middle) (two : Appends second middle after) :
    Appends (first ++ second) before after where
  output := two.output.trans one.output
  disk := two.disk.trans one.disk
  plan := two.plan.trans one.plan
  file := by rw [two.file, one.file, OpenFile.add_append, Option.map_map]

end Session

namespace Run

variable {session : Session}

theorem writeBytes_memory (memory : session.plan = .none) (bytes : Bytes) :
    ∃ after, writeBytes bytes session = (.ok (.ok ()), after) ∧ session.Appends bytes after :=
  ⟨_, stream_memory memory, rfl, rfl, rfl, rfl⟩

/-- In chunks of any number that suffices, all bytes are written. -/
theorem writeChunks_memory (memory : session.plan = .none) {most : Nat} {bytes : Bytes}
    (enough : bytes.length ≤ most) :
    ∃ after, writeChunks most bytes session = (.ok (.ok ()), after) ∧
      session.Appends bytes after := by
  induction most generalizing session bytes with
  | zero =>
      obtain rfl : bytes = [] := List.length_eq_zero_iff.1 (by omega)
      exact ⟨session, rfl, .nothing session⟩
  | succ most ih =>
      rw [writeChunks]
      split
      · next empty =>
          obtain rfl : bytes = [] := List.isEmpty_iff.1 empty
          exact ⟨session, rfl, .nothing session⟩
      · next full =>
          have some : 0 < bytes.length := by
            rw [List.isEmpty_iff] at full
            exact List.length_pos_iff.2 full
          have left : (bytes.drop bufferMax).length ≤ most := by
            simp only [List.length_drop, bufferMax]
            omega
          obtain ⟨middle, writes, first⟩ := writeBytes_memory memory (bytes.take bufferMax)
          obtain ⟨after, writesRest, second⟩ := ih (first.plan.trans memory) left
          refine ⟨after, (bind_of_ok writes).trans writesRest, ?_⟩
          have whole := first.trans second
          rwa [List.take_append_drop] at whole

/-- What copying comes to: how much was delivered, or the reader's fault. -/
def copyOutcome (delivery : Delivery) : Except StreamFault Nat :=
  match delivery.fault with
  | some fault => .error fault
  | none => .ok delivery.bytes.length

theorem copyDelivery_memory (memory : session.plan = .none) (delivery : Delivery) :
    ∃ after, copyDelivery delivery session = (.ok (copyOutcome delivery), after) ∧
      session.Appends delivery.bytes after := by
  obtain ⟨after, writes, appends⟩ :=
    writeChunks_memory memory (Nat.le_refl delivery.bytes.length)
  refine ⟨after, ?_, appends⟩
  rw [copyDelivery, bind_of_ok writes, copyOutcome]
  cases delivery.fault <;> rfl

def opened (port name : String) (session : Session) : Session :=
  noted (.newFile port name) true { session with
    output.filePorts := addToPort port [] session.output.filePorts
    openFile? := some ⟨port, name, [], [], 0⟩ }

/-- A file that was opened and written to is published when it is closed. -/
theorem closeFile_opened {filled : Session} {port name : String} {bytes : Bytes}
    (memory : session.plan = .none) (appends : (opened port name session).Appends bytes filled) :
    ∃ after, closeFile filled = (.ok (), after) ∧ after.plan = .none ∧
      after.disk = session.disk ∧ after.output = session.output.publish port ⟨name, bytes⟩ := by
  have held : filled.openFile? = some ⟨port, name, bytes, [], 0⟩ := appends.file
  have plan : filled.plan = .none := appends.plan.trans memory
  refine ⟨_, closeFile_memory plan held, plan, appends.disk, ?_⟩
  show filled.output.publish port ⟨name, bytes⟩ = _
  rw [appends.output]
  exact session.output.publish_opened port _

/-- A new file on a port, published as what was copied into it. -/
theorem copyInto_memory (memory : session.plan = .none) (isOpen : session.output.closes = 0)
    (port name : String) (delivery : Delivery) :
    ∃ after, copyInto port name delivery session =
        ((copyOutcome delivery).mapError Failure.stream, after) ∧
      after.plan = .none ∧ after.disk = session.disk ∧
      after.output = session.output.publish port ⟨name, delivery.bytes⟩ := by
  have opens : newFile port name session = (.ok (), opened port name session) :=
    newFile_memory memory isOpen
  have plan : (opened port name session).plan = .none := memory
  obtain ⟨copied, copies, appends⟩ := copyDelivery_memory plan delivery
  obtain ⟨after, closes, published⟩ := closeFile_opened memory appends
  refine ⟨after, ?_, published⟩
  rw [copyInto, bind_of_ok opens, bind_of_ok copies, attempt_bind, closes]
  cases copyOutcome delivery <;> rfl

end Run

end Sluice
