import Sluice.Proofs.Table.Whole

/-!
# Files that are cut off

A reader that fails does not deliver its file to the end.  Such a file is refused wherever the cut
falls: what was delivered in front of it is no table, and the fault comes out unless something that
stands before it is refused first.  One cut is missed: delimited text of which no more than the mark
of byte order was delivered passes for an empty file.
-/

set_option autoImplicit false

namespace Sluice

open Run

inductive Failure.Tells (fault : StreamFault) : Failure → Prop where
  | stream : Tells fault (.stream fault)
  | delimited : Tells fault (.delimited (.stream fault))

/-- A computation that meets the fault of a reader fails: with that fault, whichever it is, or else
with a failure that the fault has no part in. -/
inductive Surfaces {α : Type} (meets : StreamFault → Outcome α) : Prop where
  | told (each : ∀ fault, ∃ failure, meets fault = .error failure ∧ failure.Tells fault)
  | sooner (failure : Failure) (always : ∀ fault, meets fault = .error failure)

namespace Surfaces

variable {α β : Type} {meets : StreamFault → Outcome α}

theorem fails (surfaces : Surfaces meets) (fault : StreamFault) :
    ∃ failure, meets fault = .error failure := by
  cases surfaces with
  | told each =>
      obtain ⟨failure, same, _⟩ := each fault
      exact ⟨failure, same⟩
  | sooner failure always => exact ⟨failure, always fault⟩

theorem bind (surfaces : Surfaces meets) (next : α → Outcome β) :
    Surfaces fun fault => meets fault >>= next := by
  cases surfaces with
  | told each =>
      refine .told fun fault => ?_
      obtain ⟨failure, same, tells⟩ := each fault
      exact ⟨failure, by rw [same]; rfl, tells⟩
  | sooner failure always => exact .sooner failure fun fault => by rw [always]; rfl

/-- What comes before the fault is met can only fail sooner. -/
theorem after (surfaces : Surfaces meets) (first : Outcome β) (next : β → α → Outcome α) :
    Surfaces fun fault => first >>= fun value => meets fault >>= next value := by
  cases first with
  | error failure => exact .sooner failure fun _ => rfl
  | ok value => exact surfaces.bind (next value)

end Surfaces

/-! ## Delimited text -/

namespace Rows

theorem length_rest_lt {delimiter : UInt8} {place : Place} {row : Partial} {cursor past : Cursor}
    {bytes rest : Bytes} {cells : List Bytes}
    (finds : search delimiter place row cursor bytes = .row cells rest past) :
    rest.length < bytes.length := by
  induction bytes generalizing place row cursor with
  | nil =>
      rw [search] at finds
      split at finds <;> cases finds
  | cons b others ih =>
      rw [search] at finds
      split at finds
      · exact Nat.lt_succ_of_lt (ih finds)
      · cases finds
        exact Nat.lt_succ_self _

theorem length_dropMark_le (index : Nat) (cursor : Cursor) (bytes : Bytes) :
    (dropMark index cursor bytes).2.length ≤ bytes.length := by
  rw [dropMark]
  split
  · rw [List.length_drop]
    exact Nat.sub_le ..
  · exact Nat.le_refl _

/-- The fault comes after all rows that were delivered in full. -/
theorem collect_cut (delimiter : UInt8) {most : Nat} {bytes : Bytes} (enough : bytes.length < most)
    (index : Nat) (cursor : Cursor) : ∃ rows, ∀ fault,
      collect delimiter (some fault) most index cursor bytes =
        rows ++ [.error (.stream fault)] := by
  induction most generalizing index cursor bytes with
  | zero => exact absurd enough (Nat.not_lt_zero _)
  | succ most ih =>
      have fewer := length_dropMark_le index cursor bytes
      simp only [collect]
      cases finds : search delimiter .rowStart .empty (dropMark index cursor bytes).1
          (dropMark index cursor bytes).2 with
      | row cells rest past =>
          have shorter := length_rest_lt finds
          obtain ⟨rows, ends⟩ := ih (by omega : rest.length < most) (index + 1) past
          exact ⟨_ :: rows, fun fault => congrArg (List.cons _) (ends fault)⟩
      | unfinished cells => exact ⟨[], fun _ => rfl⟩
      | nothing => exact ⟨[], fun _ => rfl⟩

theorem read_markAlone (delimiter : UInt8) (fault : Option StreamFault) :
    read delimiter ⟨orderMark, fault⟩ = [] := by
  rw [read, faultMet, if_pos rfl]
  rfl

end Rows

namespace DelimitedFormat

variable (format : DelimitedFormat) (file : String)

theorem readRows_cut (header : Option (List String)) (width : Option Nat)
    (rows : List (Except DelimitedFault Rows.Row)) :
    Surfaces fun fault => format.readRows file header width (rows ++ [.error (.stream fault)]) := by
  induction rows generalizing width with
  | nil => exact .told fun fault => ⟨_, rfl, .delimited⟩
  | cons first rest ih =>
      cases first with
      | error met => exact .sooner (.delimited met) fun _ => rfl
      | ok row =>
          simp only [List.cons_append, readRows]
          split
          · exact .sooner _ fun _ => rfl
          · exact (ih _).after _ fun record others => .ok (record :: others)

theorem readFile_markAlone (fault : Option StreamFault) :
    format.readFile file ⟨Rows.orderMark, fault⟩ = .ok [] := by
  rw [readFile, Rows.read_markAlone]
  cases format.hasHeader <;> rfl

theorem readFile_cut {bytes : Bytes} (more : bytes ≠ Rows.orderMark) :
    Surfaces fun fault => format.readFile file ⟨bytes, some fault⟩ := by
  obtain ⟨rows, ends⟩ := Rows.collect_cut format.delimiter (Nat.lt_succ_self bytes.length) 0 ⟨1, 0⟩
  have delivers : ∀ fault, Rows.read format.delimiter ⟨bytes, some fault⟩ =
      rows ++ [.error (.stream fault)] := by
    intro fault
    rw [Rows.read, Rows.faultMet, if_neg more]
    exact ends fault
  simp only [readFile, delivers]
  cases format.hasHeader with
  | false => exact format.readRows_cut file none none rows
  | true =>
      rcases rows with _ | ⟨met | header, rest⟩
      · exact .told fun fault => ⟨_, rfl, .delimited⟩
      · exact .sooner (.delimited met) fun _ => rfl
      · exact format.readRows_cut file _ _ rest

end DelimitedFormat

/-! ## Columns of fixed width -/

namespace FixedWidthFormat

variable (format : FixedWidthFormat)

theorem readLines_cut (number : Nat) (lines : List (Except StreamFault (List Char))) :
    Surfaces fun fault => format.readLines (some fault) number lines := by
  induction lines generalizing number with
  | nil => exact .told fun fault => ⟨_, rfl, .stream⟩
  | cons first rest ih =>
      simp only [readLines]
      split
      · exact ih _
      · cases first with
        | error met => exact .sooner (.stream met) fun _ => rfl
        | ok line =>
            dsimp only
            split
            · exact ih _
            · exact (ih _).after _ fun record others => .ok (record :: others)

/-- The lines that were delivered in full are the same whatever fault follows them. -/
theorem readFile_cut (bytes : Bytes) :
    Surfaces fun fault => format.readFile ⟨bytes, some fault⟩ := by
  have lines : ∀ fault, Delivery.lines ⟨bytes, some fault⟩ =
      (splitLines bytes).1.map fun line => decodeLine (dropReturnByte line) := by
    intro fault
    simp [Delivery.lines]
  simp only [readFile, lines]
  exact format.readLines_cut 1 _

end FixedWidthFormat

/-! ## Runs -/

def Entry.isWhole (disk : Disk) : Entry → Bool
  | .record _ => true
  | .file source => (source.deliver disk).fault.isNone

/-- The function reads delimited text, and the mark of byte order is all that was delivered. -/
def MarkAlone (function : BuiltinFunction) (bytes : Bytes) : Prop :=
  function = parseDelimited ∧ bytes = Rows.orderMark

section Runs

variable {function : BuiltinFunction} {settings : Settings} {reading : TableReading}
  {bytes : Bytes} {fault : StreamFault}

theorem TableFunction.readFile_cut (reads : TableFunction function settings reading)
    (name : String) (more : ¬ MarkAlone function bytes) :
    Surfaces fun fault => reading.readFile name ⟨bytes, some fault⟩ := by
  cases reads with
  | delimited read => exact DelimitedFormat.readFile_cut _ name fun same => more ⟨rfl, same⟩
  | fixedWidth read => exact FixedWidthFormat.readFile_cut _ bytes

theorem TableFunction.readFile_markAlone (reads : TableFunction function settings reading)
    (name : String) (alone : MarkAlone function bytes) :
    reading.readFile name ⟨bytes, some fault⟩ = .ok [] := by
  obtain ⟨delimited, rfl⟩ := alone
  cases reads with
  | delimited read => exact DelimitedFormat.readFile_markAlone _ name _
  | fixedWidth read => exact absurd (congrArg BuiltinFunction.key delimited) (by decide)

theorem TableFunction.readFile_fails_iff (reads : TableFunction function settings reading)
    (name : String) :
    (∃ failure, reading.readFile name ⟨bytes, some fault⟩ = .error failure) ↔
      ¬ MarkAlone function bytes := by
  constructor
  · rintro ⟨failure, fails⟩ alone
    cases fails.symm.trans (reads.readFile_markAlone name alone)
  · exact fun more => (reads.readFile_cut name more).fails fault

/-- Handling a file that is cut off does not touch the output. -/
theorem TableFunction.handle_cut (reads : TableFunction function settings reading)
    {file : SourceFile} {session : Session}
    (cut : file.deliver session.disk = ⟨bytes, some fault⟩) :
    ∃ outcome, handleTable reading.readFile (.file file) session = (outcome, session) ∧
      (outcome = .ok () ↔ MarkAlone function bytes) := by
  rw [handleTable, Entry.asFile, ofOutcome_ok_bind, bind_of_ok (deliver_apply file session), cut]
  by_cases alone : MarkAlone function bytes
  · rw [reads.readFile_markAlone file.name alone]
    exact ⟨.ok (), rfl, iff_of_true rfl alone⟩
  · obtain ⟨failure, fails⟩ := (reads.readFile_cut file.name alone).fails fault
    rw [fails, ofOutcome_error_bind]
    exact ⟨.error failure, rfl, iff_of_false nofun alone⟩

theorem TableFunction.gives_of_cut (reads : TableFunction function settings reading) {disk : Disk}
    {entry : Entry} {outcome : Outcome (List Record)} (result : reading.Reads disk entry outcome)
    (cut : entry.isWhole disk = false) : outcome.toOption.getD [] = [] := by
  cases result with
  | table file tabulates =>
      rcases delivers : file.deliver disk with ⟨bytes, _ | fault⟩
      · simp [Entry.isWhole, delivers] at cut
      · rw [delivers] at tabulates
        have succeeds : reading.readFile file.name ⟨bytes, some fault⟩ = .ok _ :=
          reading.readFile_eq_ok.2 tabulates
        have alone : MarkAlone function bytes := by
          by_contra more
          obtain ⟨failure, fails⟩ := (reads.readFile_cut file.name more).fails fault
          cases fails.symm.trans succeeds
        exact Except.ok.inj (succeeds.symm.trans (reads.readFile_markAlone file.name alone))
  | noTable file broken fails => rfl
  | record record => rfl

/-- What is cut off contributes no record. -/
theorem TableFunction.recordsOf_whole (reads : TableFunction function settings reading)
    {disk : Disk} {handled : List (Entry × Outcome (List Record))}
    (read : ∀ pair ∈ handled, reading.Reads disk pair.1 pair.2) :
    TableReading.recordsOf (handled.filter fun pair => pair.1.isWhole disk) =
      TableReading.recordsOf handled := by
  induction handled with
  | nil => rfl
  | cons pair rest ih =>
      have following := ih fun other member => read other (List.mem_cons_of_mem _ member)
      simp only [TableReading.recordsOf] at following ⊢
      rw [List.filter_cons]
      split
      · rw [List.flatMap_cons, List.flatMap_cons, following]
      · next cut =>
          have nothing := reads.gives_of_cut (read pair (List.mem_cons_self ..))
            (Bool.eq_false_iff.2 cut)
          rw [List.flatMap_cons, nothing, following]
          rfl

end Runs

end Sluice
