import Mathlib.Order.Defs.Unbundled
import Sluice.Flow.Stage
import Sluice.Proofs.Outcome

/-!
# Reasoning about runs

A run is opened step by step with the equations of this module.  What every step does to the
session, whatever its outcome, is stated by a relation that is reflexive and transitive: a run whose
steps stay within the relation stays within it as a whole.
-/

set_option autoImplicit false

namespace Sluice

namespace Run

variable {α β : Type}

theorem bind_apply (action : Run α) (next : α → Run β) (session : Session) :
    (action >>= next) session =
      match action session with
      | (.ok value, session) => next value session
      | (.error failure, session) => (.error failure, session) := rfl

theorem bind_of_ok {action : Run α} {next : α → Run β} {before after : Session} {value : α}
    (succeeds : action before = (.ok value, after)) :
    (action >>= next) before = next value after := by
  rw [bind_apply, succeeds]

theorem bind_of_error {action : Run α} {next : α → Run β} {before after : Session}
    {failure : Failure} (fails : action before = (.error failure, after)) :
    (action >>= next) before = (.error failure, after) := by
  rw [bind_apply, fails]

@[simp] theorem attempt_apply (action : Run α) (session : Session) :
    attempt action session = (.ok (action session).1, (action session).2) := rfl

@[simp] theorem currentFile_apply (session : Session) :
    currentFile session = (.ok session.openFile?, session) := rfl

@[simp] theorem modify_apply (change : Session → Session) (session : Session) :
    modify change session = (.ok (), change session) := rfl

@[simp] theorem deliver_apply (file : SourceFile) (session : Session) :
    deliver file session = (.ok (file.deliver session.disk), session) := rfl

@[simp] theorem ofOutcome_ok_bind (value : α) (next : α → Run β) :
    (ofOutcome (.ok value) >>= next) = next value := rfl

@[simp] theorem ofOutcome_error_bind (failure : Failure) (next : α → Run β) :
    (ofOutcome (.error failure) >>= next) = fail failure := rfl

@[simp] theorem pure_bind_eq (value : α) (next : α → Run β) : (pure value >>= next) = next value :=
  rfl

theorem current_bind (next : Session → Run β) (session : Session) :
    (current >>= next) session = next session session := rfl

theorem attempt_bind (action : Run α) (next : Outcome α → Run β) (session : Session) :
    (attempt action >>= next) session = next (action session).1 (action session).2 := rfl

theorem id_map_eq (action : Run α) : id <$> action = action := by
  funext session
  show (action >>= fun value => pure (id value)) session = action session
  rw [bind_apply]
  rcases action session with ⟨_ | _, _⟩ <;> rfl

theorem bind_assoc_eq {γ : Type} (action : Run α) (next : α → Run β) (last : β → Run γ) :
    (action >>= next) >>= last = action >>= fun value => next value >>= last := by
  funext session
  simp only [bind_apply]
  rcases action session with ⟨_ | _, _⟩ <;> rfl

instance : LawfulMonad Run := LawfulMonad.mk' Run id_map_eq pure_bind_eq bind_assoc_eq

theorem withOutput_apply (inner : Run Unit) (session : Session) :
    withOutput inner session =
      ((inner session).1.bind fun _ => (closeOutput (inner session).2).1,
        (closeOutput (inner session).2).2) := rfl

/-- Whether there is a next entry. -/
theorem hasNext_apply (port : String) (session : Session) :
    hasNext port session =
      (.ok (((session.inputs.lookup port).map fun input =>
        input.opened && !input.waiting.isEmpty).getD false), session) := by
  rw [hasNext, current_bind]
  cases session.inputs.lookup port <;> rfl

/-! ## Calls -/

def noted (made : PortCall) (succeeded : Bool) (session : Session) : Session :=
  { session with journal := ⟨made, succeeded⟩ :: session.journal }

theorem call_planned {made : PortCall} {action : Session → Outcome (α × Session)}
    {session : Session} {failure : Failure}
    (planned : session.plan.ofPort session.journal made = some failure) :
    call made action session = (.error failure, noted made false session) := by
  rw [call, current_bind]
  simp only [planned]
  rfl

theorem call_unplanned {made : PortCall} {action : Session → Outcome (α × Session)}
    {session : Session} (free : session.plan.ofPort session.journal made = none) :
    call made action session =
      match action session with
      | .error failure => (.error failure, noted made false session)
      | .ok (value, after) => (.ok value, noted made true after) := by
  rw [call, current_bind]
  simp only [free]
  rcases action session with _ | ⟨_, _⟩ <;> rfl

/-- A call fails as the plan says, or else as its action does, or else does what its action does. -/
theorem call_cases (made : PortCall) (action : Session → Outcome (α × Session))
    (session : Session) :
    (∃ failure, call made action session = (.error failure, noted made false session) ∧
      (session.plan.ofPort session.journal made = some failure ∨
        action session = .error failure)) ∨
    (∃ value after, session.plan.ofPort session.journal made = none ∧
      action session = .ok (value, after) ∧
      call made action session = (.ok value, noted made true after)) := by
  cases planned : session.plan.ofPort session.journal made with
  | some failure => exact .inl ⟨failure, call_planned planned, .inl rfl⟩
  | none =>
    have result : call made action session = match action session with
        | .error failure => (.error failure, noted made false session)
        | .ok (value, after) => (.ok value, noted made true after) := call_unplanned planned
    cases acts : action session with
    | error failure =>
      rw [acts] at result
      exact .inl ⟨failure, result, .inr rfl⟩
    | ok pair =>
      rw [acts] at result
      exact .inr ⟨pair.1, pair.2, rfl, rfl, result⟩

/-- What is taken is the first entry that waits at an open port. -/
theorem next_cases (port : String) (session : Session) :
    (∃ failure, next port session = (.error failure, noted (.next port) false session)) ∨
    ∃ entry rest, session.inputs.lookup port = some ⟨entry :: rest, true⟩ ∧
      next port session =
        (.ok entry, noted (.next port) true (setPort port ⟨rest, true⟩ session)) := by
  rw [next]
  rcases call_cases (.next port) _ session with
    ⟨failure, result, _⟩ | ⟨entry, after, _, takes, result⟩
  · exact .inl ⟨failure, result⟩
  · split at takes
    · cases takes
    · cases takes
    · cases takes
    · next rest held =>
        cases takes
        exact .inr ⟨entry, rest, held, result⟩

/-- The output is closed whether or not the plan lets the closing fail. -/
theorem closeOutput_cases (session : Session) :
    (∃ failure, session.plan.ofPort session.journal .close = some failure ∧
      closeOutput session =
        (.error failure, noted .close false { session with output := session.output.close })) ∨
    (session.plan.ofPort session.journal .close = none ∧
      closeOutput session =
        (.ok (), noted .close true { session with output := session.output.close })) := by
  rw [closeOutput, bind_of_ok (modify_apply _ _)]
  cases planned : session.plan.ofPort session.journal .close with
  | some failure => exact .inl ⟨failure, rfl, call_planned planned⟩
  | none => exact .inr ⟨rfl, call_unplanned planned⟩

/-- While entries wait, only the plan can keep the first of them from being taken. -/
theorem next_waiting {port : String} {session : Session} {entry : Entry} {rest : List Entry}
    (waiting : session.inputs.lookup port = some ⟨entry :: rest, true⟩) :
    (∃ failure, session.plan.ofPort session.journal (.next port) = some failure ∧
      next port session = (.error failure, noted (.next port) false session)) ∨
    next port session =
      (.ok entry, noted (.next port) true (setPort port ⟨rest, true⟩ session)) := by
  cases planned : session.plan.ofPort session.journal (.next port) with
  | some failure => exact .inl ⟨failure, rfl, call_planned planned⟩
  | none =>
      right
      rw [next, call_unplanned planned, waiting]

/-- An open file is published whether or not the plan lets the closing fail. -/
theorem closeFile_cases {session : Session} {file : OpenFile}
    (opened : session.openFile? = some file) :
    let published := { session with
      output := session.output.publish file.port ⟨file.name, file.bytes⟩, openFile? := none }
    (∃ failure, session.plan.ofPort session.journal .closeFile = some failure ∧
      closeFile session = (.error failure, noted .closeFile false published)) ∨
    (session.plan.ofPort session.journal .closeFile = none ∧
      closeFile session = (.ok (), noted .closeFile true published)) := by
  intro published
  have closes : closeFile session =
      call .closeFile (fun session => .ok ((), session)) published := by
    rw [closeFile, bind_of_ok (currentFile_apply session), opened]
    exact bind_of_ok (modify_apply _ _)
  rw [closes]
  cases planned : session.plan.ofPort session.journal .closeFile with
  | some failure => exact .inl ⟨failure, rfl, call_planned planned⟩
  | none => exact .inr ⟨rfl, call_unplanned planned⟩

theorem closeOutput_output (session : Session) :
    (closeOutput session).2.output = session.output.close := by
  rcases closeOutput_cases session with ⟨_, _, result⟩ | ⟨_, result⟩
  · rw [result]
    rfl
  · rw [result]
    rfl

def changed (change : OpenFile → OpenFile) (session : Session) : Session :=
  { session with openFile? := session.openFile?.map change }

theorem stream_cases (made : PortCall) (change : OpenFile → OpenFile) (session : Session) :
    (∃ fault, session.plan.ofStream session.journal made = some fault ∧
      stream made change session = (.ok (.error fault), noted made false session)) ∨
    (session.plan.ofStream session.journal made = none ∧
      stream made change session = (.ok (.ok ()), noted made true (changed change session))) := by
  cases planned : session.plan.ofStream session.journal made with
  | some fault =>
    refine .inl ⟨fault, rfl, ?_⟩
    rw [stream, current_bind]
    simp only [planned]
    rfl
  | none =>
    refine .inr ⟨rfl, ?_⟩
    rw [stream, current_bind]
    simp only [planned]
    rfl

/-! ## Relations that every step respects -/

/-- Whatever the outcome, the session after the run is related to the one before it. -/
def Within (relation : Session → Session → Prop) (action : Run α) : Prop :=
  ∀ session, relation session (action session).2

section Within

variable {relation : Session → Session → Prop}

theorem Within.bind [IsTrans Session relation] {action : Run α} {next : α → Run β}
    (first : Within relation action) (rest : ∀ value, Within relation (next value)) :
    Within relation (action >>= next) := by
  intro session
  have firstStep := first session
  rw [bind_apply]
  rcases result : action session with ⟨outcome, middle⟩
  rw [result] at firstStep
  cases outcome with
  | ok value => exact trans_of relation firstStep (rest value middle)
  | error failure => exact firstStep

theorem Within.attempt {action : Run α} (step : Within relation action) :
    Within relation (attempt action) := step

theorem Within.ofOutcome [Std.Refl relation] (outcome : Outcome α) :
    Within relation (ofOutcome outcome) := fun session => refl_of relation session

theorem Within.pure [Std.Refl relation] (value : α) : Within relation (pure value : Run α) :=
  fun session => refl_of relation session

theorem Within.hasNext [Std.Refl relation] (port : String) :
    Within relation (Run.hasNext port) := by
  intro session
  rw [hasNext_apply]
  exact refl_of relation session

/-- What the handling of an entry brings about may depend on the entry having been taken. -/
theorem Within.drainEntries [IsPreorder Session relation] {policy : Settings.EntryPolicy}
    {handle : Entry → Run Unit}
    (takes : Within relation (next defaultPort >>= fun entry => Run.attempt (handle entry)))
    (most : Nat) (counts : DrainCounts) :
    Within relation (Run.drainEntries policy handle most counts) := by
  induction most generalizing counts with
  | zero => exact Within.pure counts
  | succ most ih =>
      refine (Within.hasNext defaultPort).bind fun more => ?_
      cases more with
      | false => exact Within.pure counts
      | true =>
          rw [if_pos rfl, ← bind_assoc]
          refine takes.bind fun outcome => ?_
          cases outcome with
          | ok value => exact ih _
          | error failure =>
              dsimp only
              split
              · exact ih _
              · exact Within.ofOutcome _

theorem Within.drain [IsPreorder Session relation] {policy : Settings.EntryPolicy}
    {handle : Entry → Run Unit} (finds : Within relation (findInput defaultPort))
    (opens : Within relation (openInput defaultPort))
    (takes : Within relation (next defaultPort >>= fun entry => Run.attempt (handle entry))) :
    Within relation (Run.drain policy handle) := by
  refine finds.bind fun _ => opens.bind fun _ session => ?_
  exact Within.drainEntries takes _ _ session

theorem Within.currentFile [Std.Refl relation] : Within relation Run.currentFile :=
  fun session => refl_of relation session

theorem Within.deliver [Std.Refl relation] (file : SourceFile) :
    Within relation (Run.deliver file) := fun session => refl_of relation session

theorem Within.ofStream [Std.Refl relation] {wrap : StreamFault → Failure}
    (outcome : Except StreamFault α) : Within relation (Run.ofStream wrap outcome) := by
  cases outcome with
  | ok value => exact Within.pure value
  | error fault => exact Within.ofOutcome _

/-- What goes on after a write that may have failed. -/
theorem Within.written [IsPreorder Session relation] {action : Run (Except StreamFault Unit)}
    {next : Run (Except StreamFault β)} (writes : Within relation action)
    (goesOn : Within relation next) :
    Within relation (action >>= fun written =>
      match written with
      | .error fault => Pure.pure (.error fault)
      | .ok () => next) := by
  refine writes.bind fun written => ?_
  cases written with
  | error fault => exact Within.pure _
  | ok value => exact goesOn

/-- A call whose action stays within the relation does so too if the journal does not matter. -/
theorem Within.call [IsPreorder Session relation] {made : PortCall}
    {action : Session → Outcome (α × Session)}
    (journal : ∀ session made succeeded, relation session (noted made succeeded session))
    (acts : ∀ before value after, action before = .ok (value, after) → relation before after) :
    Within relation (call made action) := by
  intro session
  rcases call_cases made action session with ⟨_, result, _⟩ | ⟨value, after, _, done, result⟩
  · rw [result]
    exact journal session made false
  · rw [result]
    exact trans_of relation (acts session value after done) (journal after made true)

/-- Neither what waits at the inputs nor the journal matters to the relation. -/
structure Blind (relation : Session → Session → Prop) : Prop where
  inputs : ∀ session inputs, relation session { session with inputs := inputs }
  journal : ∀ session made succeeded, relation session (noted made succeeded session)

namespace Blind

variable [IsPreorder Session relation] (blind : Blind relation)

include blind

theorem findInput (port : String) : Within relation (findInput port) := by
  refine Within.call blind.journal fun before value after done => ?_
  split at done
  · cases done
    exact refl_of relation before
  · cases done

theorem openInput (port : String) : Within relation (openInput port) := by
  refine Within.call blind.journal fun before value after done => ?_
  split at done
  · cases done
    exact blind.inputs before _
  · cases done

theorem next (port : String) : Within relation (next port) := by
  refine Within.call blind.journal fun before value after done => ?_
  split at done
  · cases done
  · cases done
  · cases done
  · cases done
    exact blind.inputs before _

theorem drain {policy : Settings.EntryPolicy} {handle : Entry → Run Unit}
    (handles : ∀ entry, Within relation (handle entry)) :
    Within relation (drain policy handle) :=
  Within.drain (blind.findInput defaultPort) (blind.openInput defaultPort)
    ((blind.next defaultPort).bind fun entry => (handles entry).attempt)

end Blind

structure Streams (relation : Session → Session → Prop) : Prop where
  writes : ∀ bytes, Within relation (writeBytes bytes)
  flushes : Within relation (stream .flushFile id)
  changes : ∀ change : OpenFile → OpenFile, (∀ file, (change file).port = file.port) →
    Within relation (modifyFile change)

namespace Streams

variable [IsPreorder Session relation] (streams : Streams relation)

include streams

theorem changed {change : OpenFile → OpenFile}
    (keeps : ∀ file, (change file).port = file.port) :
    Within relation
      (modifyFile change >>= fun _ => (pure (.ok ()) : Run (Except StreamFault Unit))) :=
  (streams.changes change keeps).bind fun _ => Within.pure _

theorem writePending : Within relation writePending := by
  refine Within.currentFile.bind fun file? => ?_
  cases file? with
  | none => exact Within.pure _
  | some file =>
      dsimp only
      split
      · exact Within.pure _
      · exact (streams.writes _).written (streams.changed fun _ => rfl)

theorem writePiece (piece : Bytes) : Within relation (writePiece piece) := by
  refine Within.currentFile.bind fun file? => ?_
  cases file? with
  | none => exact Within.pure _
  | some file =>
      dsimp only
      split
      · exact streams.changed fun _ => rfl
      · exact streams.writePending.written (streams.changed fun _ => rfl)

theorem writePieces (pieces : List Bytes) : Within relation (writePieces pieces) := by
  induction pieces with
  | nil => exact Within.pure _
  | cons piece rest ih => exact (streams.writePiece piece).written ih

theorem flushFile : Within relation flushFile := streams.writePending.written streams.flushes

theorem writeChunks (most : Nat) (bytes : Bytes) : Within relation (writeChunks most bytes) := by
  induction most generalizing bytes with
  | zero => exact Within.pure _
  | succ most ih =>
      rw [Run.writeChunks]
      split
      · exact Within.pure _
      · exact (streams.writes _).written (ih _)

theorem copyDelivery (delivery : Delivery) : Within relation (copyDelivery delivery) := by
  refine (streams.writeChunks _ _).written ?_
  split <;> exact Within.pure _

end Streams

/-- Neither what is put out nor the journal matters to the relation. -/
structure Inward (relation : Session → Session → Prop) : Prop where
  output : ∀ session output openFile?,
    relation session { session with output := output, openFile? := openFile? }
  journal : ∀ session made succeeded, relation session (noted made succeeded session)

namespace Inward

variable [IsPreorder Session relation] (inward : Inward relation)

include inward

theorem stream (made : PortCall) (change : OpenFile → OpenFile) :
    Within relation (stream made change) := by
  intro session
  rcases stream_cases made change session with ⟨_, _, result⟩ | ⟨_, result⟩
  · rw [result]
    exact inward.journal session made false
  · rw [result]
    exact trans_of relation (inward.output session session.output _) (inward.journal _ made true)

theorem streams : Streams relation where
  writes _ := inward.stream _ _
  flushes := inward.stream _ _
  changes _ _ session := inward.output session session.output _

theorem writeRecord (port : String) (record : Record) :
    Within relation (writeRecord port record) := by
  refine Within.call inward.journal fun before value after done => ?_
  obtain ⟨output, _, done⟩ := Outcome.bind_eq_ok.1 done
  cases done
  exact inward.output before output before.openFile?

theorem newFile (port name : String) : Within relation (newFile port name) := by
  refine Within.call inward.journal fun before value after done => ?_
  obtain ⟨output, _, done⟩ := Outcome.bind_eq_ok.1 done
  cases done
  exact inward.output before output _

theorem planned (made : PortCall) :
    Within relation (call made fun session => .ok ((), session)) := by
  refine Within.call inward.journal fun before value after done => ?_
  cases done
  exact refl_of relation before

theorem closeFile : Within relation closeFile := by
  refine Within.currentFile.bind fun file? => ?_
  cases file? with
  | none => exact Within.pure ()
  | some file =>
      exact Within.bind (fun session => inward.output session _ none) fun _ => inward.planned _

theorem withOutput {body : Run Unit} (inner : Within relation body) :
    Within relation (withOutput body) := by
  have closes : Within relation closeOutput :=
    Within.bind (fun session => inward.output session _ session.openFile?) fun _ =>
      inward.planned _
  exact inner.attempt.bind fun _ => closes.attempt.bind fun _ => Within.ofOutcome _

theorem copyInto (port name : String) (delivery : Delivery) :
    Within relation (copyInto port name delivery) := by
  refine (inward.newFile port name).bind fun _ => ?_
  refine (inward.streams.copyDelivery delivery).bind fun copied => ?_
  refine inward.closeFile.attempt.bind fun closed => ?_
  refine (Within.ofStream copied).bind fun size => ?_
  exact (Within.ofOutcome closed).bind fun _ => Within.pure size

end Inward

end Within

end Run

end Sluice
