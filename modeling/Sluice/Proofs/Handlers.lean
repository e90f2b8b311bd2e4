import Sluice.Proofs.Flow.Blame
import Sluice.Proofs.Flow.Buffer
import Sluice.Proofs.Flow.Handling
import Sluice.Proofs.Flow.Journal
import Sluice.Proofs.Stages

/-!
# Handlers on memory

No handler depends on the entries that wait, and one that fails because of its entry has done
nothing yet: what it computes before its first call may concern the entry, while a failing call
always ends the run.
-/

set_option autoImplicit false

namespace Sluice

namespace Run

variable {α β : Type}

/-! ## Failures that end the run -/

/-- On memory, no failure of the action concerns one entry alone. -/
def Grave (action : Run α) : Prop :=
  ∀ before after failure, before.plan = .none → action before = (.error failure, after) →
    failure.isEntryScoped = false

theorem not_scoped_of_io (failure : Failure) (io : failure.kind = .io) :
    failure.isEntryScoped = false := by
  rw [Failure.isEntryScoped, io]

theorem Blames.grave {action : Run α} (meets : Blames (·.isEntryScoped = false) action) :
    Grave action := by
  intro before after failure memory fails
  have known := (meets before (memory ▸ FaultPlan.none_blames _)).2
  rw [fails] at known
  exact known failure rfl

theorem closeFile_succeeds {session : Session} (memory : session.plan = .none) :
    ∃ after, closeFile session = (.ok (), after) := by
  cases opened : session.openFile? with
  | none =>
      refine ⟨session, ?_⟩
      rw [closeFile, bind_of_ok (currentFile_apply session), opened]
      rfl
  | some file => exact ⟨_, closeFile_memory memory opened⟩

/-! ## Failures that leave no trace -/

theorem Grave.traceless {action : Run Unit} (grave : Grave action) : Traceless action := by
  intro before after failure memory fails concerns
  rw [grave before after failure memory fails] at concerns
  cases concerns

theorem traceless_ofOutcome_bind (outcome : Outcome α) {next : α → Run Unit}
    (rest : ∀ value, Traceless (next value)) : Traceless (ofOutcome outcome >>= next) := by
  intro before after failure memory fails concerns
  cases outcome with
  | error found =>
      cases fails
      exact .self memory
  | ok value => exact rest value before after failure memory fails concerns

theorem traceless_deliver_bind (file : SourceFile) {next : Delivery → Run Unit}
    (rest : ∀ delivery, Traceless (next delivery)) : Traceless (deliver file >>= next) := by
  intro before after failure memory fails concerns
  rw [bind_of_ok (deliver_apply file before)] at fails
  exact rest _ before after failure memory fails concerns

/-! ## Writing records and files -/

theorem aside_writeRecords (port : String) (records : List Record) :
    Aside (writeRecords port records) := by
  induction records with
  | nil => exact aside_pure ()
  | cons record rest ih => exact (aside_writeRecord port record).bind fun _ => ih

theorem aside_onDisk (change : Disk → Except StreamFault (α × Disk)) : Aside (onDisk change) := by
  intro first second alike
  rw [onDisk, current_bind, current_bind, alike.disk]
  cases change second.disk with
  | error fault => exact ⟨rfl, alike, rfl⟩
  | ok pair => exact ⟨rfl, ⟨alike.output, alike.openFile?, rfl, alike.memory, alike.other⟩, rfl⟩

/-- Writes what a reader delivers to a place of the disk. -/
def fillPlace (place : Place) (delivery : Delivery) : Run Nat := do
  modify fun session => { session with disk := session.disk.fill place delivery.bytes }
  match delivery.fault with
  | some fault => fail (.stream fault)
  | none => pure delivery.bytes.length

theorem aside_fillPlace (place : Place) (delivery : Delivery) :
    Aside (fillPlace place delivery) := by
  refine Aside.bind (aside_modify ?_ fun session => rfl) fun _ => ?_
  · intro first second alike
    exact ⟨alike.output, alike.openFile?, congrArg (Disk.fill · place delivery.bytes) alike.disk,
      alike.memory, alike.other⟩
  · split
    · exact aside_ofOutcome _
    · exact aside_pure _

theorem handleSaving_eq (folder : String) (entry : Entry) :
    handleSaving folder entry = (ofOutcome entry.asFile >>= fun file =>
      ofOutcome (Path.destination folder file.name) >>= fun path =>
        onDisk (fun disk => disk.create path) >>= fun place =>
          deliver file >>= fun delivery =>
            fillPlace place delivery >>= fun _ => pure ()) := by
  simp only [handleSaving, saveFile, bind_assoc]
  rfl

theorem aside_writeRow (delimiter : UInt8) (cells : List String) :
    Aside (writeRow delimiter cells) :=
  (aside_writePieces _).bind fun written => aside_ofStream written

section Io

variable {condition : Failure → Prop}
  (io : ∀ failure : Failure, failure.kind = .io → condition failure)

include io

theorem blames_writeRecords (port : String) (records : List Record) :
    Blames condition (writeRecords port records) := by
  induction records with
  | nil => exact blames_pure ()
  | cons record rest ih => exact (blames_writeRecord io port record).bind fun _ => ih

theorem blames_onDisk (change : Disk → Except StreamFault (α × Disk)) :
    Blames condition (onDisk change) := by
  intro session _
  rw [onDisk, current_bind]
  cases change session.disk with
  | error fault => exact ⟨rfl, Outcome.blames_error (io _ rfl)⟩
  | ok pair => exact ⟨rfl, Outcome.blames_ok _⟩

theorem blames_fillPlace (place : Place) (delivery : Delivery) :
    Blames condition (fillPlace place delivery) := by
  refine Blames.bind (blames_modify ?_) fun _ => ?_
  · exact fun session => rfl
  · split
    · exact blames_ofOutcome (Outcome.blames_error (io _ rfl))
    · exact blames_pure _

theorem blames_writeRow (delimiter : UInt8) (cells : List String) :
    Blames condition (writeRow delimiter cells) :=
  (blames_writePieces _).bind fun written => blames_ofStream io (fun _ => rfl) written

end Io

end Run

/-! ## The handlers of the functions -/

open Run

theorem HandlesAlone.aside {handle : Entry → Run Unit} (alone : HandlesAlone handle)
    (entry : Entry) : Aside (handle entry) := by
  cases alone with
  | byField routing =>
      refine (aside_ofOutcome _).bind fun record => ?_
      exact (aside_ofOutcome _).bind fun port => aside_writeRecord port record
  | byCondition routing =>
      refine (aside_ofOutcome _).bind fun record => ?_
      exact (aside_ofOutcome _).bind fun port => aside_writeRecord port record
  | ofFiles routing =>
      refine (aside_ofOutcome _).bind fun file => ?_
      refine (aside_ofOutcome _).bind fun port => ?_
      refine (aside_deliver file).bind fun delivery => ?_
      exact (aside_copyInto port file.name delivery).bind fun _ => aside_pure ()
  | byRules derivation =>
      refine (aside_ofOutcome _).bind fun record => ?_
      exact (aside_ofOutcome _).bind fun _ => aside_writeRecord _ _
  | ofTables readFile =>
      refine (aside_ofOutcome _).bind fun file => ?_
      refine (aside_deliver file).bind fun delivery => ?_
      exact (aside_ofOutcome _).bind fun records => aside_writeRecords _ records
  | saving folder =>
      rw [handleSaving_eq]
      refine (aside_ofOutcome _).bind fun file => ?_
      refine (aside_ofOutcome _).bind fun path => ?_
      refine (aside_onDisk _).bind fun place => ?_
      refine (aside_deliver file).bind fun delivery => ?_
      exact (aside_fillPlace place delivery).bind fun _ => aside_pure ()

theorem HandlesAlone.traceless {handle : Entry → Run Unit} (alone : HandlesAlone handle)
    (entry : Entry) : Traceless (handle entry) := by
  have io := not_scoped_of_io
  cases alone with
  | byField routing =>
      refine traceless_ofOutcome_bind _ fun record => ?_
      exact traceless_ofOutcome_bind _ fun port =>
        (blames_writeRecord io port record).grave.traceless
  | byCondition routing =>
      refine traceless_ofOutcome_bind _ fun record => ?_
      exact traceless_ofOutcome_bind _ fun port =>
        (blames_writeRecord io port record).grave.traceless
  | ofFiles routing =>
      refine traceless_ofOutcome_bind _ fun file => ?_
      refine traceless_ofOutcome_bind _ fun port => ?_
      refine traceless_deliver_bind file fun delivery => (Blames.grave ?_).traceless
      exact (blames_copyInto io port file.name delivery).bind fun _ => blames_pure ()
  | byRules derivation =>
      refine traceless_ofOutcome_bind _ fun record => ?_
      exact traceless_ofOutcome_bind _ fun _ => (blames_writeRecord io _ _).grave.traceless
  | ofTables readFile =>
      refine traceless_ofOutcome_bind _ fun file => ?_
      refine traceless_deliver_bind file fun delivery => ?_
      exact traceless_ofOutcome_bind _ fun records =>
        (blames_writeRecords io _ records).grave.traceless
  | saving folder =>
      -- A name that leads elsewhere is refused before anything is created.
      rw [handleSaving_eq]
      refine traceless_ofOutcome_bind _ fun file => ?_
      refine traceless_ofOutcome_bind _ fun path => (Blames.grave ?_).traceless
      refine (blames_onDisk io _).bind fun place => ?_
      refine (blames_deliver file).bind fun delivery => ?_
      exact (blames_fillPlace io place delivery).bind fun _ => blames_pure ()

theorem DelimitedLayout.aside_handle (layout : DelimitedLayout) (entry : Entry) :
    Aside (layout.handle entry) :=
  (aside_ofOutcome _).bind fun _ => aside_writeRow _ _

theorem DelimitedLayout.traceless_handle (layout : DelimitedLayout) (entry : Entry) :
    Traceless (layout.handle entry) :=
  traceless_ofOutcome_bind _ fun _ => (blames_writeRow not_scoped_of_io _ _).grave.traceless

end Sluice
