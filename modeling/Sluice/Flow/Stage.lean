import Sluice.Flow.Drain

/-!
# Stages

What the settings of a function come to, and the frame that all functions share.  A stage acquires
what it works with, handles the entries of its input, and releases what it acquired whatever the
outcome; around all that the output is closed.
-/

set_option autoImplicit false

namespace Sluice

/-- A function that is set up. -/
structure Stage where
  policy : Settings.EntryPolicy
  /-- Comes first; if it fails there is nothing to release. -/
  acquire : Run Unit
  /-- Comes before the input is opened. -/
  lead : Run Unit
  handle : Entry → Run Unit
  /-- Comes after the last entry. -/
  trail : Run Unit
  /-- Comes last and is told the outcome of what followed `acquire`. -/
  release : Outcome Unit → Run Unit

namespace Stage

def handling (policy : Settings.EntryPolicy) (handle : Entry → Run Unit) : Stage where
  policy := policy
  acquire := pure ()
  lead := pure ()
  handle := handle
  trail := pure ()
  release := Run.ofOutcome

def work (stage : Stage) : Run Unit := do
  stage.lead
  let _ ← Run.drain stage.policy stage.handle
  stage.trail

def run (stage : Stage) : Run Unit := do
  stage.acquire
  let outcome ← Run.attempt stage.work
  stage.release outcome

end Stage

/-- What is done before the output is closed: the stage runs if the settings come to one. -/
def Run.body (settled : Outcome Stage) : Run Unit := do
  let stage ← Run.ofOutcome settled
  stage.run

/-- Runs what the settings come to and closes the output. -/
def Run.perform (settled : Outcome Stage) : Run Unit := Run.withOutput (Run.body settled)

end Sluice
