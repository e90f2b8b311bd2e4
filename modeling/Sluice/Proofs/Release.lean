import Sluice.Proofs.Flow.Journal
import Sluice.Proofs.Stages

/-!
# Every function releases what it acquires

Whatever calls fail, a function closes its output once and last, and before that it closes every
file that it opened.  Its outcome is that of its body or else that of the closing.
-/

set_option autoImplicit false

namespace Sluice

open Run

/-! ## Stages -/

theorem puts_logs : Puts (Logs false FilesReleased) where
  records := writeRecord_logs
  files := copyInto_logs

theorem DelimitedLayout.total_filling (layout : DelimitedLayout) (policy : Settings.EntryPolicy) :
    Total (layout.filling policy) :=
  (total_attempt _).bind fun written => total_flushFile.bind fun _ => total_pure written

theorem DelimitedLayout.stage_logs (layout : DelimitedLayout) (policy : Settings.EntryPolicy) :
    Within (Logs false FilesReleased) (layout.stage policy).run := by
  have inside : Within (Logs true InnerTrace) (layout.filling policy) :=
    layout.filling_within streams_logs (drain_logs (layout.handle_within streams_logs))
  rw [layout.stage_run]
  exact file_logs inside (layout.total_filling policy) fun _ _ _ => rfl

theorem body_logs {function : BuiltinFunction} (builtin : function ∈ builtinFunctions)
    (settings : Settings) :
    Within (Logs false FilesReleased) (body (function.settle settings)) :=
  body_within puts_logs (fun _ _ => logs_of_unseen ⟨rfl, rfl, rfl⟩) (fun _ _ => drain_logs)
    DelimitedLayout.stage_logs builtin settings

/-! ## The closing of the output -/

theorem closeOutput_journal (session : Session) :
    ∃ closed, (closeOutput session).2.journal = ⟨.close, closed⟩ :: session.journal := by
  rcases closeOutput_cases session with ⟨failure, _, result⟩ | ⟨_, result⟩
  · exact ⟨false, by rw [result]; rfl⟩
  · exact ⟨true, by rw [result]; rfl⟩

def closing (plan : FaultPlan) (journal : List PortEvent) : Outcome Unit :=
  match plan.ofPort journal .close with
  | some failure => .error failure
  | none => .ok ()

theorem closeOutput_outcome (session : Session) :
    (closeOutput session).1 = closing session.plan session.journal := by
  rw [closing]
  rcases closeOutput_cases session with ⟨failure, planned, result⟩ | ⟨planned, result⟩
  · rw [planned, result]
  · rw [planned, result]

/-- Whatever the settings, the input and the disk are and whatever calls fail: the output is closed
once, after all other calls, each file that was opened is closed once before that, and the outcome
is the failure of the body, or else that of closing the output, or else success. -/
theorem execute_releases (function : BuiltinFunction) (builtin : function ∈ builtinFunctions)
    (settings : Settings) (inputs : List (String × InputPort)) (disk : Disk) (plan : FaultPlan) :
    let start := Session.on inputs disk plan
    let (outcome, ended) := body (function.settle settings) start
    let (result, final) := function.execute settings start
    (∃ closed, final.journal.reverse = ended.journal.reverse ++ [⟨.close, closed⟩]) ∧
      (∀ event ∈ ended.journal, event.call ≠ .close) ∧
      FilesReleased ended.journal.reverse ∧
      result = outcome.bind fun _ => closing plan ended.journal := by
  have logs := body_logs builtin settings (Session.on inputs disk plan) rfl
  obtain ⟨_, samePlan, trace, grown, released⟩ := logs
  have whole : (body (function.settle settings) (Session.on inputs disk plan)).2.journal =
      trace.reverse := by
    rw [grown]
    exact List.append_nil _
  dsimp only
  rw [BuiltinFunction.execute, perform, withOutput_apply]
  refine ⟨?_, ?_, ?_, ?_⟩
  · obtain ⟨closed, journal⟩ := closeOutput_journal
      (body (function.settle settings) (Session.on inputs disk plan)).2
    exact ⟨closed, by rw [journal, List.reverse_cons]⟩
  · intro event member
    rw [whole, List.mem_reverse] at member
    exact released.output_open event member
  · rw [whole, List.reverse_reverse]
    exact released
  · rw [closeOutput_outcome, samePlan]
    rfl

def brokenOutput : FaultPlan where
  ofPort _ call := if call = .close then some (.port "output" "close failed") else none
  ofStream _ _ := some (.told "disk full")

/-- The writer of delimited text fails with what its flushing met, and still closes its file and
then the output. -/
theorem execute_releases_broken_output :
    generateDelimited ∈ builtinFunctions ∧
      let start := Session.on (Session.inputsOf [.record .empty]) .empty brokenOutput
      let (result, final) := generateDelimited.execute
        [("delimiter", .text ","), ("filename", .text "out.csv"), ("header", .text "true"),
          ("headerValue", .list [.text "name"])] start
      result = .error (.stream (.told "disk full")) ∧
        ∃ inner, FilesReleased inner ∧ ⟨.newFile "default" "out.csv", true⟩ ∈ inner ∧
          final.journal.reverse = inner ++ [⟨.close, false⟩] := by
  have builtin : generateDelimited ∈ builtinFunctions := by simp [builtinFunctions]
  have released := execute_releases generateDelimited builtin
    [("delimiter", .text ","), ("filename", .text "out.csv"), ("header", .text "true"),
      ("headerValue", .list [.text "name"])]
    (Session.inputsOf [.record .empty]) .empty brokenOutput
  obtain ⟨_, _, files, result⟩ := released
  exact ⟨builtin, result.trans rfl, _, files, by decide +kernel, by rfl⟩

end Sluice
