import Sluice.Proofs.Settings
import Sluice.Proofs.Steady

/-!
# Skipping failing entries

On memory ports, a run that skips failing entries does what a run does that is not given them.
-/

set_option autoImplicit false

namespace Sluice

open Run

/-! ## Two policies -/

theorem failing_never {log : HandlingLog} (strict : log.Failing (skips .fail))
    (policy : Settings.EntryPolicy) : log.Failing (skips policy) := by
  intro entry failure member
  cases strict entry failure member

theorem failing_concerns {log : HandlingLog} (skipped : log.Failing (skips .skip)) :
    log.Failing Failure.isEntryScoped := by
  intro entry failure member
  have concerns := skipped entry failure member
  simpa [skips] using concerns

theorem failing_succeeded (log : HandlingLog) (condition : Failure → Bool) :
    log.succeeded.Failing condition := by
  intro entry failure member
  cases (List.mem_filter.1 member).2

/-- If nothing fails, the policy does not matter. -/
theorem Stage.Steady.perform_skip {stage : Stage}
    (steady : ∀ policy, (stage.under policy).Steady) {entries : List Entry} {disk : Disk}
    (succeeds : (perform (.ok (stage.under .fail)) (.onMemory entries disk)).1 = .ok ()) :
    perform (.ok (stage.under .skip)) (.onMemory entries disk) =
      perform (.ok (stage.under .fail)) (.onMemory entries disk) := by
  obtain ⟨led, opened, log, outcome, after, strict⟩ := (steady .fail).runs entries disk
  obtain ⟨led', opened', log', outcome', after', lenient⟩ := (steady .skip).runs entries disk
  obtain rfl : outcome = .ok () := strict.outcome_eq.symm.trans succeeds
  obtain ⟨_, rfl⟩ := Prod.mk.inj (strict.leads.symm.trans lenient.leads)
  obtain ⟨_, rfl⟩ := Prod.mk.inj (strict.opens.symm.trans lenient.opens)
  obtain ⟨whole, never⟩ := drained_ok_iff.1 strict.drained
  have alsoDrained : Drained .skip entries log (.ok ()) :=
    drained_ok_iff.2 ⟨whole, failing_never never .skip⟩
  obtain ⟨rfl, rfl⟩ := alsoDrained.unique strict.handles lenient.drained lenient.handles
  rw [lenient.result, strict.result]
  rfl

/-- Without the entries that are skipped, nothing fails and the same is put out. -/
theorem Stage.Steady.perform_kept {stage : Stage}
    (steady : ∀ policy, (stage.under policy).Steady) {entries : List Entry} {disk : Disk}
    {led opened after : Session} {log : HandlingLog}
    (lenient : (stage.under .skip).RunsBy entries disk led opened log (.ok ()) after) :
    let strict := perform (.ok (stage.under .fail)) (.onMemory log.succeeded.entries disk)
    strict.1 = .ok () ∧
      (perform (.ok (stage.under .skip)) (.onMemory entries disk)).2.Alike strict.2 := by
  obtain ⟨led', opened', log', outcome', after', strict⟩ :=
    (steady .fail).runs log.succeeded.entries disk
  have ledAlike : led.Alike led' := by
    have same := (steady .fail).leading_aside (.onMemory entries disk)
      (.onMemory log.succeeded.entries disk) ⟨rfl, rfl, rfl, rfl, rfl⟩
    rw [strict.leads] at same
    rw [show ((stage.under .fail).leading (.onMemory entries disk)) = _ from lenient.leads] at same
    exact same.2.1
  have openedAlike : opened.Alike opened' :=
    lenient.alike.symm.trans (ledAlike.trans strict.alike)
  have concerns := failing_concerns (drained_ok_iff.1 lenient.drained).2
  obtain ⟨last, handles, lastAlike⟩ := lenient.handles.succeeded (steady .fail).handle_aside
    (steady .fail).handle_traceless concerns openedAlike strict.offers
  have drained : Drained .fail log.succeeded.entries log.succeeded (.ok ()) :=
    drained_ok_iff.2 ⟨rfl, failing_succeeded log _⟩
  obtain ⟨rfl, rfl⟩ := drained.unique handles strict.drained strict.handles
  refine ⟨strict.outcome_eq, ?_⟩
  rw [strict.result, lenient.result]
  exact (aside_withOutput ((steady .fail).ending_aside (.ok ())) _ _ lastAlike).2.1

/-! ## The functions -/

/-- In a run on memory, the first entries are handled as a log tells. -/
def BuiltinFunction.HandlesBy (function : BuiltinFunction) (settings : Settings)
    (entries : List Entry) (disk : Disk) (log : HandlingLog) : Prop :=
  ∃ stage opened ended, function.settle settings = .ok stage ∧
    stage.opening (.onMemory entries disk) = (.ok (), opened) ∧
      Handles stage.handle opened log ended

/-- What settings that are refused come to: the output is closed and nothing is read. -/
theorem perform_refused (failure : Failure) (entries : List Entry) (disk : Disk) :
    let refused := perform (.error failure) (.onMemory entries disk)
    refused.1 = .error failure ∧ refused.2.journal = [⟨.close, true⟩] :=
  ⟨rfl, rfl⟩

/-- A run that skips failing entries.  If nothing fails it is the run that skips nothing.  If it
succeeds, then every entry whose handling failed did so for a reason of its own, and without these
entries the run that skips nothing succeeds as well, with the same output and disk.  If it fails,
then with a failure of handling that concerns more than one entry, or as the settings are refused
under either policy and no entry is taken. -/
theorem skip_leaves_failing_out (function : BuiltinFunction)
    (builtin : function ∈ builtinFunctions) (settings : Settings) (entries : List Entry)
    (disk : Disk) :
    let run policy given := function.execute (settings.under policy) (.onMemory given disk)
    let lenient := run .skip entries
    ((run .fail entries).1 = .ok () → lenient = run .fail entries) ∧
      (lenient.1 = .ok () → ∃ log,
        function.HandlesBy (settings.under .skip) entries disk log ∧ log.entries = entries ∧
          log.Failing Failure.isEntryScoped ∧
          let kept := run .fail log.succeeded.entries
          kept.1 = .ok () ∧ kept.2.output = lenient.2.output ∧ kept.2.disk = lenient.2.disk) ∧
      ∀ failure, lenient.1 = .error failure →
        (∃ log entry rest,
          function.HandlesBy (settings.under .skip) entries disk
              (log ++ [(entry, .error failure)]) ∧
            entries = HandlingLog.entries log ++ entry :: rest ∧ failure.isEntryScoped = false) ∨
        ((run .fail entries).1 = .error failure ∧
          ∀ policy, ∀ event ∈ (run policy entries).2.journal, ∀ port, event.call ≠ .next port) := by
  obtain ⟨settled, under⟩ := settle_under builtin settings
  simp only [BuiltinFunction.execute, under]
  cases settled with
  | error refusal =>
      obtain ⟨refused, closes⟩ := perform_refused refusal entries disk
      refine ⟨fun _ => rfl, fun succeeds => ?_, fun failure fails => .inr ⟨?_, ?_⟩⟩
      · cases refused.symm.trans succeeds
      · exact fails
      · intro policy event member port
        change event ∈ (perform (.error refusal) (.onMemory entries disk)).2.journal at member
        rw [closes] at member
        obtain rfl := List.mem_singleton.1 member
        simp
  | ok stage =>
      have steady : ∀ policy, (stage.under policy).Steady := by
        intro policy
        have settles : function.settle (settings.under policy) = .ok (stage.under policy) :=
          under policy
        exact (builtinStage_of_settle builtin settles).steady
      obtain ⟨led, opened, log, outcome, after, lenient⟩ := (steady .skip).runs entries disk
      have settles : function.settle (settings.under .skip) = .ok (stage.under .skip) :=
        under .skip
      refine ⟨Stage.Steady.perform_skip steady, fun succeeds => ?_, fun failure fails => .inl ?_⟩
      · obtain rfl : outcome = .ok () := lenient.outcome_eq.symm.trans succeeds
        obtain ⟨whole, skipped⟩ := drained_ok_iff.1 lenient.drained
        obtain ⟨strict, alike⟩ := Stage.Steady.perform_kept steady lenient
        exact ⟨log, ⟨_, opened, after, settles, lenient.opening, lenient.handles⟩, whole,
          failing_concerns skipped, strict, alike.output.symm, alike.disk.symm⟩
      · obtain rfl : outcome = .error failure := lenient.outcome_eq.symm.trans fails
        obtain ⟨earlier, entry, rest, rfl, reached, fatal⟩ := lenient.drained.of_error
        refine ⟨earlier, entry, rest, ⟨_, opened, after, settles, lenient.opening,
          lenient.handles⟩, reached, ?_⟩
        simpa [skips, Stage.under] using fatal

/-- A router by field that skips a file among its records. -/
theorem skip_leaves_file_out :
    routeByField ∈ builtinFunctions ∧
      let settings : Settings := [("defaultOutputPort", .text "rest"), ("rules", .list [])]
      let entries := [.record .empty, .file (.ofBytes "a.txt" []), .record .empty]
      let lenient := routeByField.execute (settings.under .skip) (.onMemory entries .empty)
      lenient.1 = .ok () ∧ ∃ kept,
        (routeByField.execute (settings.under .fail) (.onMemory kept .empty)).2.output =
          lenient.2.output := by
  have builtin : routeByField ∈ builtinFunctions := by simp [builtinFunctions]
  have splits := skip_leaves_failing_out routeByField builtin
    [("defaultOutputPort", .text "rest"), ("rules", .list [])]
    [.record .empty, .file (.ofBytes "a.txt" []), .record .empty] .empty
  obtain ⟨_, _, _, _, _, sameOutput, _⟩ := splits.2.1 rfl
  exact ⟨builtin, rfl, _, sameOutput⟩

end Sluice
