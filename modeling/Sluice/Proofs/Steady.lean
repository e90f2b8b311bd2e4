import Sluice.Proofs.Handlers

/-!
# Stages on memory

On memory a stage always begins and ends without failure, so that what it comes to is decided by
how its input is drained.
-/

set_option autoImplicit false

namespace Sluice

open Run

namespace Stage

def leading (stage : Stage) : Run Unit := do
  stage.acquire
  stage.lead

def opening (stage : Stage) : Run Unit := do
  stage.leading
  openDefault

def ending (stage : Stage) (drained : Outcome Unit) : Run Unit := do
  let worked ← attempt (ofOutcome drained >>= fun _ => stage.trail)
  stage.release worked

theorem run_of_led {stage : Stage} {before led : Session}
    (leads : stage.leading before = (.ok (), led)) :
    let drained := drain stage.policy stage.handle led
    stage.run before = stage.ending (drained.1.map fun _ => ()) drained.2 := by
  dsimp only
  rw [leading, bind_apply] at leads
  rcases acquired : stage.acquire before with ⟨_ | _, held⟩
  · rw [acquired] at leads
    cases leads
  · rw [acquired] at leads
    rw [run, bind_of_ok acquired, attempt_bind, ending, attempt_bind]
    have working : stage.work held =
        (ofOutcome ((drain stage.policy stage.handle led).1.map fun _ => ()) >>= fun _ =>
          stage.trail) (drain stage.policy stage.handle led).2 := by
      rw [work, bind_of_ok leads, bind_apply]
      rcases drain stage.policy stage.handle led with ⟨_ | _, _⟩ <;> rfl
    rw [working]

theorem run_of_opened {stage : Stage} {before led opened : Session} {entries : List Entry}
    (leads : stage.leading before = (.ok (), led)) (opens : openDefault led = (.ok (), opened))
    (offers : opened.Offers entries) :
    let drained := drainEntries stage.policy stage.handle entries.length ⟨0, 0⟩ opened
    stage.run before = stage.ending (drained.1.map fun _ => ()) drained.2 := by
  rw [run_of_led leads, drain_of_opened opens offers.waiting]

/-- On memory everything but the handling of entries succeeds and is independent of the input, and
a failure that concerns one entry leaves no trace. -/
structure Steady (stage : Stage) : Prop where
  leading_aside : stage.leading.Aside
  leading_ok : ∀ session : Session, session.plan = .none → session.output.closes = 0 →
    ∃ led, stage.leading session = (.ok (), led)
  handle_aside : ∀ entry, (stage.handle entry).Aside
  handle_traceless : ∀ entry, (stage.handle entry).Traceless
  ending_aside : ∀ drained, (stage.ending drained).Aside
  ending_same : ∀ (drained : Outcome Unit) (session : Session), session.plan = .none →
    ∃ ended, stage.ending drained session = (drained, ended)

end Stage

theorem HandlesAlone.steady {handle : Entry → Run Unit} (alone : HandlesAlone handle)
    (policy : Settings.EntryPolicy) : (Stage.handling policy handle).Steady where
  leading_aside := aside_pure ()
  leading_ok session _ _ := ⟨session, rfl⟩
  handle_aside := alone.aside
  handle_traceless := alone.traceless
  ending_aside drained :=
    ((aside_ofOutcome drained).bind fun _ => aside_pure ()).attempt.bind fun worked =>
      aside_ofOutcome worked
  ending_same drained session _ := by cases drained <;> exact ⟨session, rfl⟩

namespace DelimitedLayout

variable (layout : DelimitedLayout)

theorem aside_writeHeader : layout.writeHeader.Aside := by
  rw [writeHeader]
  split
  · exact aside_writeRow _ _
  · exact aside_pure ()

theorem writeHeader_ok {session : Session} (memory : session.plan = .none) :
    ∃ headed, layout.writeHeader session = (.ok (), headed) := by
  rw [writeHeader]
  split
  · have accepts : session.plan.AcceptsFiles := memory ▸ FaultPlan.none_acceptsFiles
    obtain ⟨headed, result, _⟩ := writeRow_accepted accepts layout.delimiter layout.fields
    exact ⟨headed, result⟩
  · exact ⟨session, rfl⟩

theorem stage_steady (policy : Settings.EntryPolicy) : (layout.stage policy).Steady where
  leading_aside := (aside_newFile _ _).bind fun _ => layout.aside_writeHeader
  leading_ok session memory isOpen := by
    rw [Stage.leading, stage, bind_of_ok (newFile_memory memory isOpen)]
    exact layout.writeHeader_ok memory
  handle_aside := layout.aside_handle
  handle_traceless := layout.traceless_handle
  ending_aside drained := by
    refine Aside.bind ?_ fun worked => ?_
    · exact ((aside_ofOutcome drained).bind fun _ =>
        aside_flushFile.bind fun flushed => aside_ofStream flushed).attempt
    · exact aside_flushFile.bind fun _ => aside_closeFile.attempt.bind fun closed =>
        aside_ofOutcome _
  ending_same drained session memory := by
    have trails : ∃ worked, worked.plan = .none ∧
        (ofOutcome drained >>= fun _ => (layout.stage policy).trail) session =
          (drained, worked) := by
      cases drained with
      | error failure => exact ⟨session, memory, rfl⟩
      | ok value =>
          obtain ⟨flushed, result, writes, _⟩ :=
            flushFile_accepted (memory ▸ FaultPlan.none_acceptsFiles)
          refine ⟨flushed, writes.plan.trans memory, ?_⟩
          exact bind_of_ok result
    obtain ⟨worked, workedMemory, result⟩ := trails
    obtain ⟨flushed, flushes, writes, _⟩ :=
      flushFile_accepted (workedMemory ▸ FaultPlan.none_acceptsFiles)
    obtain ⟨closed, closes⟩ := closeFile_succeeds (writes.plan.trans workedMemory)
    refine ⟨closed, ?_⟩
    rw [Stage.ending, attempt_bind, result]
    refine (bind_of_ok flushes).trans ?_
    rw [attempt_bind, closes]
    cases drained <;> rfl

end DelimitedLayout

theorem BuiltinStage.steady {stage : Stage} (builtin : BuiltinStage stage) : stage.Steady := by
  cases builtin with
  | handling policy alone => exact alone.steady policy
  | writing layout policy => exact layout.stage_steady policy

/-! ## Closing the output on memory -/

theorem aside_closeOutput : closeOutput.Aside := by
  intro first second alike
  rw [closeOutput_memory alike.memory, closeOutput_memory alike.other]
  exact ⟨rfl, ⟨congrArg Output.close alike.output, alike.openFile?, alike.disk, alike.memory,
    alike.other⟩, rfl⟩

theorem aside_withOutput {inner : Run Unit} (aside : inner.Aside) : (withOutput inner).Aside :=
  aside.attempt.bind fun _ => aside_closeOutput.attempt.bind fun _ => aside_ofOutcome _

theorem withOutput_memory {inner : Run Unit} {before after : Session} {outcome : Outcome Unit}
    (result : inner before = (outcome, after)) (memory : after.plan = .none) :
    (withOutput inner before).1 = outcome := by
  rw [withOutput_apply, result, closeOutput_memory memory]
  cases outcome <;> rfl

/-! ## A whole run on memory -/

def Session.onMemory (entries : List Entry) (disk : Disk) : Session :=
  .on (inputsOf entries) disk .none

/-- How a stage runs on memory: from where it has opened its input, entries are handled as the log
tells, and what follows depends on the end of the log alone. -/
structure Stage.RunsBy (stage : Stage) (entries : List Entry) (disk : Disk) (led opened : Session)
    (log : HandlingLog) (outcome : Outcome Unit) (after : Session) : Prop where
  leads : stage.leading (.onMemory entries disk) = (.ok (), led)
  opens : openDefault led = (.ok (), opened)
  alike : led.Alike opened
  offers : opened.Offers entries
  handles : Handles stage.handle opened log after
  drained : Drained stage.policy entries log outcome
  memory : after.plan = .none
  result : perform (.ok stage) (.onMemory entries disk) = withOutput (stage.ending outcome) after
  outcome_eq : (perform (.ok stage) (.onMemory entries disk)).1 = outcome

theorem Handles.memory {handle : Entry → Run Unit} {before after : Session} {log : HandlingLog}
    (handles : Handles handle before log after) (aside : ∀ entry, (handle entry).Aside)
    (memory : before.plan = .none) : after.plan = .none := by
  induction handles with
  | done session => exact memory
  | entry takes handled rest ih =>
      exact ih ((aside _).memory (next_alike memory takes).other handled).1

theorem Stage.Steady.runs {stage : Stage} (steady : stage.Steady) (entries : List Entry)
    (disk : Disk) :
    ∃ led opened log outcome after, stage.RunsBy entries disk led opened log outcome after := by
  obtain ⟨led, leads⟩ := steady.leading_ok (.onMemory entries disk) rfl rfl
  obtain ⟨ledMemory, ledInputs⟩ := steady.leading_aside.memory rfl leads
  have waiting : led.inputs.lookup defaultPort = some ⟨entries, false⟩ := by
    rw [ledInputs]
    rfl
  obtain ⟨opened, opens, offers, alike⟩ := openDefault_memory ledMemory waiting
  obtain ⟨log, outcome, after, handles, drained, drains, ends⟩ :=
    drainEntries_memory steady.handle_aside offers ⟨0, 0⟩
  have memory := handles.memory steady.handle_aside offers.memory
  have runs : stage.run (.onMemory entries disk) = stage.ending outcome after := by
    rw [← drains, ← ends]
    exact Stage.run_of_opened leads opens offers
  have result : perform (.ok stage) (.onMemory entries disk) =
      withOutput (stage.ending outcome) after := by
    show withOutput stage.run (.onMemory entries disk) = withOutput (stage.ending outcome) after
    rw [withOutput_apply, runs, withOutput_apply]
  obtain ⟨ended, ending⟩ := steady.ending_same outcome after memory
  have endedMemory := ((steady.ending_aside outcome).memory memory ending).1
  refine ⟨led, opened, log, outcome, after, leads, opens, alike, offers, handles, drained, memory,
    result, ?_⟩
  rw [result]
  exact withOutput_memory ending endedMemory

theorem Stage.RunsBy.opening {stage : Stage} {entries : List Entry} {disk : Disk}
    {led opened after : Session} {log : HandlingLog} {outcome : Outcome Unit}
    (runs : stage.RunsBy entries disk led opened log outcome after) :
    stage.opening (.onMemory entries disk) = (.ok (), opened) := by
  rw [Stage.opening, bind_of_ok runs.leads, runs.opens]

/-- A stage that only handles entries leaves the output as the last handling has left it, closed. -/
theorem Stage.RunsBy.handling_output {policy : Settings.EntryPolicy} {handle : Entry → Run Unit}
    {entries : List Entry} {disk : Disk} {led opened after : Session} {log : HandlingLog}
    {outcome : Outcome Unit}
    (runs : (Stage.handling policy handle).RunsBy entries disk led opened log outcome after) :
    opened.output = .empty ∧
      (perform (.ok (.handling policy handle)) (.onMemory entries disk)).2.output =
        after.output.close := by
  constructor
  · obtain ⟨_, rfl⟩ := Prod.mk.inj (show (Except.ok (), Session.onMemory entries disk) = _ from
      runs.leads)
    exact runs.alike.output.symm
  · have ends : (Stage.handling policy handle).ending outcome after = (outcome, after) := by
      cases outcome <;> rfl
    rw [runs.result, withOutput_apply, ends, closeOutput_memory runs.memory]
    rfl

end Sluice
