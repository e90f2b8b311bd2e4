import Sluice.Proofs.Stages

/-!
# Runs that leave the disk alone

Of all that a run does, only saving a file reaches the disk.  So a stage that saves none leaves the
disk as it was, whatever calls fail and however the run ends.
-/

set_option autoImplicit false

namespace Sluice

namespace Run

def SameDisk (before after : Session) : Prop := after.disk = before.disk

instance : IsPreorder Session SameDisk where
  refl _ := rfl
  trans _ _ _ first second := second.trans first

abbrev KeepsDisk {α : Type} (action : Run α) : Prop := Within SameDisk action

theorem blind_sameDisk : Blind SameDisk where
  inputs _ _ := rfl
  journal _ _ _ := rfl

theorem inward_sameDisk : Inward SameDisk where
  output _ _ _ := rfl
  journal _ _ _ := rfl

end Run

open Run

/-! ## Stages -/

structure Stage.KeepsDisk (stage : Stage) : Prop where
  acquire : Run.KeepsDisk stage.acquire
  lead : Run.KeepsDisk stage.lead
  handle : ∀ entry, Run.KeepsDisk (stage.handle entry)
  trail : Run.KeepsDisk stage.trail
  release : ∀ outcome, Run.KeepsDisk (stage.release outcome)

theorem Stage.KeepsDisk.run {stage : Stage} (keeps : stage.KeepsDisk) :
    Run.KeepsDisk stage.run := by
  have work : Run.KeepsDisk stage.work := by
    refine keeps.lead.bind fun _ => ?_
    exact (blind_sameDisk.drain keeps.handle).bind fun _ => keeps.trail
  exact keeps.acquire.bind fun _ => work.attempt.bind fun outcome => keeps.release outcome

theorem Stage.keepsDisk_handling {policy : Settings.EntryPolicy} {handle : Entry → Run Unit}
    (handles : ∀ entry, Run.KeepsDisk (handle entry)) :
    (Stage.handling policy handle).KeepsDisk where
  acquire := Within.pure ()
  lead := Within.pure ()
  handle := handles
  trail := Within.pure ()
  release outcome := Within.ofOutcome outcome

theorem DelimitedLayout.stage_keepsDisk (layout : DelimitedLayout)
    (policy : Settings.EntryPolicy) : (layout.stage policy).KeepsDisk where
  acquire := inward_sameDisk.newFile _ _
  lead := inward_sameDisk.streams.writeHeader layout
  handle := layout.handle_within inward_sameDisk.streams
  trail := inward_sameDisk.streams.flushFile.bind fun flushed => Within.ofStream flushed
  release written := by
    refine inward_sameDisk.streams.flushFile.bind fun _ => ?_
    exact inward_sameDisk.closeFile.attempt.bind fun closed => Within.ofOutcome _

/-- What settings of a function come to leaves the disk alone unless the function saves files. -/
theorem settled_keepsDisk {function : BuiltinFunction} (builtin : function ∈ builtinFunctions)
    (other : function.key ≠ saveFiles.key) {settings : Settings} {stage : Stage}
    (settled : function.settle settings = .ok stage) : stage.KeepsDisk := by
  simp only [builtinFunctions, List.mem_cons, List.not_mem_nil, or_false] at builtin
  rcases builtin with rfl | rfl | rfl | rfl | rfl | rfl | rfl | rfl
  · obtain ⟨routing, _, _, _, rfl⟩ := FieldRouting.settle_eq_ok.1 settled
    exact Stage.keepsDisk_handling (routing.handle_within inward_sameDisk.puts)
  · obtain ⟨_, _, compiled, _, _, _, rfl⟩ := ConditionRouting.settle_eq_ok.1 settled
    exact Stage.keepsDisk_handling (compiled.handleRecord_within inward_sameDisk.puts)
  · obtain ⟨_, _, compiled, _, _, _, rfl⟩ := ConditionRouting.settle_eq_ok.1 settled
    exact Stage.keepsDisk_handling (compiled.handleFile_within inward_sameDisk.puts)
  · obtain ⟨_, _, derivation, _, _, _, rfl⟩ := DeriveRule.settle_eq_ok.1 settled
    exact Stage.keepsDisk_handling (derivation.handle_within inward_sameDisk.puts)
  · obtain ⟨format, _, _, _, rfl⟩ := DelimitedFormat.settle_eq_ok.1 settled
    exact Stage.keepsDisk_handling (inward_sameDisk.puts.handleTable _)
  · obtain ⟨format, _, _, _, rfl⟩ := FixedWidthFormat.settle_eq_ok.1 settled
    exact Stage.keepsDisk_handling (inward_sameDisk.puts.handleTable _)
  · obtain ⟨layout, policy, _, _, rfl⟩ := DelimitedLayout.settle_eq_ok.1 settled
    exact layout.stage_keepsDisk policy
  · exact absurd rfl other

/-- A function that saves no files leaves the disk as it was, whatever it is given, whatever calls
fail and whatever its outcome is. -/
theorem execute_keepsDisk {function : BuiltinFunction} (builtin : function ∈ builtinFunctions)
    (other : function.key ≠ saveFiles.key) (settings : Settings) :
    Run.KeepsDisk (function.execute settings) := by
  refine inward_sameDisk.withOutput ?_
  cases settled : function.settle settings with
  | error failure => exact Within.ofOutcome _
  | ok stage => exact (settled_keepsDisk builtin other settled).run

end Sluice
