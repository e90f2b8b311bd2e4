import Sluice.Proofs.Flow.Run
import Sluice.Proofs.Outcome

/-!
# What a failure can be

A run passes on the failures of its steps, and the steps of the flow itself fail for reasons of the
ports and streams.  So a condition that such failures meet, and those that the plan lets happen, is
met by every failure of a run once it is met by what is computed between the steps.
-/

set_option autoImplicit false

namespace Sluice

def Outcome.Blames {α : Type} (condition : Failure → Prop) (outcome : Outcome α) : Prop :=
  ∀ failure, outcome = .error failure → condition failure

def FaultPlan.Blames (condition : Failure → Prop) (plan : FaultPlan) : Prop :=
  ∀ journal made failure, plan.ofPort journal made = some failure → condition failure

theorem FaultPlan.none_blames (condition : Failure → Prop) : FaultPlan.none.Blames condition := by
  intro journal made failure planned
  cases planned

/-- Under any plan whose failures meet the condition, the action keeps the plan and fails only with
failures that meet it. -/
def Run.Blames {α : Type} (condition : Failure → Prop) (action : Run α) : Prop :=
  ∀ session, session.plan.Blames condition →
    (action session).2.plan = session.plan ∧ Outcome.Blames condition (action session).1

variable {α β : Type} {condition : Failure → Prop}

namespace Outcome

theorem blames_ok (value : α) : Blames condition (.ok value : Outcome α) := by
  intro failure fails
  cases fails

theorem blames_error {failure : Failure} (meets : condition failure) :
    Blames condition (.error failure : Outcome α) := by
  intro other fails
  cases fails
  exact meets

theorem Blames.bind {outcome : Outcome α} {next : α → Outcome β} (first : Blames condition outcome)
    (rest : ∀ value, Blames condition (next value)) : Blames condition (outcome >>= next) := by
  cases outcome with
  | error failure => exact blames_error (first failure rfl)
  | ok value => exact rest value

theorem Blames.map {outcome : Outcome α} (first : Blames condition outcome) (f : α → β) :
    Blames condition (outcome.map f) := by
  cases outcome with
  | error failure => exact blames_error (first failure rfl)
  | ok value => exact blames_ok (f value)

end Outcome

namespace Run

theorem Blames.bind {action : Run α} {next : α → Run β} (first : Blames condition action)
    (rest : ∀ value, Blames condition (next value)) : Blames condition (action >>= next) := by
  intro session plan
  obtain ⟨kept, meets⟩ := first session plan
  rcases result : action session with ⟨outcome, middle⟩
  rw [result] at kept meets
  cases outcome with
  | error failure =>
      rw [bind_of_error result]
      exact ⟨kept, Outcome.blames_error (meets failure rfl)⟩
  | ok value =>
      obtain ⟨keptLater, meetsLater⟩ := rest value middle (kept ▸ plan)
      rw [bind_of_ok result]
      exact ⟨keptLater.trans kept, meetsLater⟩

/-- An outcome that is taken as a value is known to meet the condition. -/
theorem Blames.attempt_bind {action : Run α} {next : Outcome α → Run β}
    (first : Blames condition action)
    (rest : ∀ outcome, Outcome.Blames condition outcome → Blames condition (next outcome)) :
    Blames condition (attempt action >>= next) := by
  intro session plan
  obtain ⟨kept, meets⟩ := first session plan
  obtain ⟨keptLater, meetsLater⟩ := rest _ meets (action session).2 (kept ▸ plan)
  exact ⟨keptLater.trans kept, meetsLater⟩

theorem blames_ofOutcome {outcome : Outcome α} (meets : Outcome.Blames condition outcome) :
    Blames condition (ofOutcome outcome) := fun _ _ => ⟨rfl, meets⟩

theorem blames_pure (value : α) : Blames condition (pure value : Run α) :=
  fun _ _ => ⟨rfl, Outcome.blames_ok value⟩

/-- A step that always succeeds. -/
theorem blames_total {action : Run α}
    (total : ∀ session, ∃ value after, action session = (.ok value, after) ∧
      after.plan = session.plan) : Blames condition action := by
  intro session _
  obtain ⟨value, after, result, kept⟩ := total session
  rw [result]
  exact ⟨kept, Outcome.blames_ok value⟩

theorem blames_modify {change : Session → Session}
    (kept : ∀ session, (change session).plan = session.plan) : Blames condition (modify change) :=
  blames_total fun session => ⟨(), change session, rfl, kept session⟩

theorem blames_currentFile : Blames condition currentFile :=
  blames_total fun session => ⟨_, session, rfl, rfl⟩

theorem blames_deliver (file : SourceFile) : Blames condition (deliver file) :=
  blames_total fun session => ⟨_, session, rfl, rfl⟩

theorem blames_hasNext (port : String) : Blames condition (hasNext port) :=
  blames_total fun session => ⟨_, session, hasNext_apply port session, rfl⟩

theorem blames_stream (made : PortCall) (change : OpenFile → OpenFile) :
    Blames condition (stream made change) := by
  refine blames_total fun session => ?_
  rcases stream_cases made change session with ⟨fault, _, result⟩ | ⟨_, result⟩
  · exact ⟨_, _, result, rfl⟩
  · exact ⟨_, _, result, rfl⟩

theorem blames_call {made : PortCall} {action : Session → Outcome (α × Session)}
    (acts : ∀ session, Outcome.Blames condition (action session))
    (kept : ∀ session value after, action session = .ok (value, after) →
      after.plan = session.plan) : Blames condition (call made action) := by
  intro session plan
  rcases call_cases made action session with
    ⟨failure, result, cause⟩ | ⟨value, after, _, done, result⟩
  · rw [result]
    refine ⟨rfl, Outcome.blames_error ?_⟩
    rcases cause with planned | fails
    · exact plan _ _ _ planned
    · exact acts session failure fails
  · rw [result]
    exact ⟨kept session value after done, Outcome.blames_ok value⟩

/-! ## Files -/

theorem blames_writePending : Blames condition writePending := by
  refine blames_currentFile.bind fun file? => ?_
  cases file? with
  | none => exact blames_pure _
  | some file =>
      dsimp only
      split
      · exact blames_pure _
      · refine (blames_stream _ _).bind fun written => ?_
        cases written with
        | error fault => exact blames_pure _
        | ok value => exact (blames_modify fun _ => rfl).bind fun _ => blames_pure _

theorem blames_writePiece (piece : Bytes) : Blames condition (writePiece piece) := by
  refine blames_currentFile.bind fun file? => ?_
  cases file? with
  | none => exact blames_pure _
  | some file =>
      dsimp only
      split
      · exact (blames_modify fun _ => rfl).bind fun _ => blames_pure _
      · refine blames_writePending.bind fun written => ?_
        cases written with
        | error fault => exact blames_pure _
        | ok value => exact (blames_modify fun _ => rfl).bind fun _ => blames_pure _

theorem blames_writePieces (pieces : List Bytes) : Blames condition (writePieces pieces) := by
  induction pieces with
  | nil => exact blames_pure _
  | cons piece rest ih =>
      refine (blames_writePiece piece).bind fun written => ?_
      cases written with
      | error fault => exact blames_pure _
      | ok value => exact ih

theorem blames_flushFile : Blames condition flushFile := by
  refine blames_writePending.bind fun written => ?_
  cases written with
  | error fault => exact blames_pure _
  | ok value => exact blames_stream _ _

theorem blames_writeChunks (most : Nat) (bytes : Bytes) :
    Blames condition (writeChunks most bytes) := by
  induction most generalizing bytes with
  | zero => exact blames_pure _
  | succ most ih =>
      rw [writeChunks]
      split
      · exact blames_pure _
      · refine (blames_stream _ _).bind fun written => ?_
        cases written with
        | error fault => exact blames_pure _
        | ok value => exact ih _

theorem blames_copyDelivery (delivery : Delivery) : Blames condition (copyDelivery delivery) := by
  refine (blames_writeChunks _ _).bind fun written => ?_
  cases written with
  | error fault => exact blames_pure _
  | ok value =>
      dsimp only
      split <;> exact blames_pure _

/-- A call that fails by plan only. -/
theorem blames_planned (made : PortCall) :
    Blames condition (call made fun session => .ok ((), session)) := by
  refine blames_call (fun session => Outcome.blames_ok _) fun session value after done => ?_
  cases done
  rfl

theorem blames_closeFile : Blames condition closeFile := by
  refine blames_currentFile.bind fun file? => ?_
  cases file? with
  | none => exact blames_pure ()
  | some file =>
      refine Blames.bind (blames_modify ?_) fun _ => blames_planned _
      exact fun session => rfl

theorem blames_closeOutput : Blames condition closeOutput := by
  refine Blames.bind (blames_modify ?_) fun _ => blames_planned _
  exact fun session => rfl

/-! ## Failures of ports and streams -/

section Io

variable (io : ∀ failure : Failure, failure.kind = .io → condition failure)

include io

theorem blames_findInput (port : String) : Blames condition (findInput port) := by
  refine blames_call (fun session => ?_) fun session value after done => ?_
  · cases session.inputs.lookup port with
    | none => exact Outcome.blames_error (io _ rfl)
    | some input => exact Outcome.blames_ok _
  · cases found : session.inputs.lookup port <;> rw [found] at done <;> cases done
    rfl

theorem blames_openInput (port : String) : Blames condition (openInput port) := by
  refine blames_call (fun session => ?_) fun session value after done => ?_
  · cases session.inputs.lookup port with
    | none => exact Outcome.blames_error (io _ rfl)
    | some input => exact Outcome.blames_ok _
  · cases found : session.inputs.lookup port <;> rw [found] at done <;> cases done
    rfl

theorem blames_next (port : String) : Blames condition (next port) := by
  refine blames_call (fun session => ?_) fun session value after done => ?_
  · split
    · exact Outcome.blames_error (io _ rfl)
    · exact Outcome.blames_error (io _ rfl)
    · exact Outcome.blames_error (io _ rfl)
    · exact Outcome.blames_ok _
  · split at done <;> cases done
    rfl

theorem blames_checkOpen (output : Output) (port : String) :
    Outcome.Blames condition (output.checkOpen port) := by
  rw [Output.checkOpen]
  split
  · exact Outcome.blames_error (io _ rfl)
  · exact Outcome.blames_ok _

theorem blames_writeRecord (port : String) (record : Record) :
    Blames condition (writeRecord port record) := by
  refine blames_call (fun session => ?_) fun session value after done => ?_
  · exact ((blames_checkOpen io session.output port).bind fun _ => Outcome.blames_ok _).bind
      fun _ => Outcome.blames_ok _
  · obtain ⟨output, _, same⟩ := Outcome.bind_eq_ok.1 done
    cases same
    rfl

theorem blames_newFile (port name : String) : Blames condition (newFile port name) := by
  refine blames_call (fun session => ?_) fun session value after done => ?_
  · exact ((blames_checkOpen io session.output port).bind fun _ => Outcome.blames_ok _).bind
      fun _ => Outcome.blames_ok _
  · obtain ⟨output, _, same⟩ := Outcome.bind_eq_ok.1 done
    cases same
    rfl

theorem blames_ofStream {wrap : StreamFault → Failure} (wraps : ∀ fault, (wrap fault).kind = .io)
    (outcome : Except StreamFault α) : Blames condition (ofStream wrap outcome) := by
  cases outcome with
  | error fault => exact blames_ofOutcome (Outcome.blames_error (io _ (wraps fault)))
  | ok value => exact blames_pure value

theorem blames_copyInto (port name : String) (delivery : Delivery) :
    Blames condition (copyInto port name delivery) := by
  refine (blames_newFile io port name).bind fun _ => ?_
  refine (blames_copyDelivery delivery).bind fun copied => ?_
  refine blames_closeFile.attempt_bind fun closed meets => ?_
  refine (blames_ofStream io (fun _ => rfl) copied).bind fun size => ?_
  exact (blames_ofOutcome meets).bind fun _ => blames_pure size

theorem blames_drainEntries {policy : Settings.EntryPolicy} {handle : Entry → Run Unit}
    (handles : ∀ entry, Blames condition (handle entry)) (most : Nat) (counts : DrainCounts) :
    Blames condition (drainEntries policy handle most counts) := by
  induction most generalizing counts with
  | zero => exact blames_pure counts
  | succ most ih =>
      refine (blames_hasNext defaultPort).bind fun more => ?_
      split
      · refine (blames_next io defaultPort).bind fun entry => ?_
        refine (handles entry).attempt_bind fun outcome meets => ?_
        cases outcome with
        | ok value => exact ih _
        | error failure =>
            dsimp only
            split
            · exact ih _
            · exact blames_ofOutcome (Outcome.blames_error (meets failure rfl))
      · exact blames_pure counts

theorem blames_drain {policy : Settings.EntryPolicy} {handle : Entry → Run Unit}
    (handles : ∀ entry, Blames condition (handle entry)) :
    Blames condition (drain policy handle) := by
  refine (blames_findInput io defaultPort).bind fun _ => ?_
  refine (blames_openInput io defaultPort).bind fun _ => ?_
  refine (blames_total fun session => ⟨session, session, rfl, rfl⟩).bind fun session => ?_
  exact blames_drainEntries io handles _ _

end Io

theorem blames_withOutput {body : Run Unit} (meets : Blames condition body) :
    Blames condition (withOutput body) := by
  refine meets.attempt_bind fun outcome meets => ?_
  refine blames_closeOutput.attempt_bind fun closed meetsClosed => ?_
  exact blames_ofOutcome (meets.bind fun _ => meetsClosed)

end Run

/-! ## Stages -/

/-- All parts of a stage fail with failures that meet the condition, the release only if what it is
told does so. -/
structure Stage.Blames (condition : Failure → Prop) (stage : Stage) : Prop where
  acquire : stage.acquire.Blames condition
  lead : stage.lead.Blames condition
  handle : ∀ entry, (stage.handle entry).Blames condition
  trail : stage.trail.Blames condition
  release : ∀ outcome, Outcome.Blames condition outcome →
    (stage.release outcome).Blames condition

theorem Stage.blames_handling {policy : Settings.EntryPolicy} {handle : Entry → Run Unit}
    (handles : ∀ entry, (handle entry).Blames condition) :
    (Stage.handling policy handle).Blames condition where
  acquire := Run.blames_pure ()
  lead := Run.blames_pure ()
  handle := handles
  trail := Run.blames_pure ()
  release _ meets := Run.blames_ofOutcome meets

theorem Stage.Blames.perform {stage : Stage} (meets : stage.Blames condition)
    (io : ∀ failure : Failure, failure.kind = .io → condition failure) :
    (Run.perform (.ok stage)).Blames condition := by
  refine Run.blames_withOutput (meets.acquire.bind fun _ => ?_)
  refine Run.Blames.attempt_bind ?_ meets.release
  refine meets.lead.bind fun _ => ?_
  exact (Run.blames_drain io meets.handle).bind fun _ => meets.trail

end Sluice
