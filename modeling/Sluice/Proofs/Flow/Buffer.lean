import Sluice.Proofs.Flow.Memory
import Sluice.Table.Writing

/-!
# The content of the file being written

What was written to an open file is its published part and behind that the pieces that wait.  Where
the plan accepts files every writing succeeds, adds its bytes at the end of the content and changes
nothing else; whether a piece waits or goes out at once cannot be told from the content.
-/

set_option autoImplicit false

namespace Sluice

namespace OpenFile

def content (file : OpenFile) : Bytes := file.bytes ++ file.pending.reverse.flatten

def Counted (file : OpenFile) : Prop := file.pendingSize = file.pending.flatten.length

theorem content_of_settled {file : OpenFile} (counted : file.Counted)
    (settled : file.pendingSize = 0) : file.content = file.bytes := by
  have nothing : file.pending.flatten = [] := List.length_eq_zero_iff.1 (counted ▸ settled)
  have pieces : file.pending.reverse.flatten = [] := by
    rw [List.flatten_eq_nil_iff] at nothing ⊢
    intro piece member
    exact nothing piece (List.mem_reverse.1 member)
  rw [content, pieces, List.append_nil]

def push (piece : Bytes) (file : OpenFile) : OpenFile :=
  { file with
    pending := piece :: file.pending, pendingSize := file.pendingSize + piece.length }

theorem content_push (file : OpenFile) (piece : Bytes) :
    (file.push piece).content = file.content ++ piece := by
  simp [push, content]

theorem Counted.push {file : OpenFile} (counted : file.Counted) (piece : Bytes) :
    (file.push piece).Counted := by
  simp only [Counted, OpenFile.push, List.flatten_cons, List.length_append] at counted ⊢
  omega

end OpenFile

namespace Session

structure Writes (bytes : Bytes) (before after : Session) : Prop where
  output : after.output = before.output
  disk : after.disk = before.disk
  plan : after.plan = before.plan
  file : ∀ file, before.openFile? = some file → file.Counted →
    ∃ written, after.openFile? = some written ∧ written.Counted ∧ written.port = file.port ∧
      written.name = file.name ∧ written.content = file.content ++ bytes

theorem Writes.nothing (session : Session) : Writes [] session session where
  output := rfl
  disk := rfl
  plan := rfl
  file file opened counted := ⟨file, opened, counted, rfl, rfl, (List.append_nil _).symm⟩

theorem Writes.trans {first second : Bytes} {before middle after : Session}
    (one : Writes first before middle) (two : Writes second middle after) :
    Writes (first ++ second) before after where
  output := two.output.trans one.output
  disk := two.disk.trans one.disk
  plan := two.plan.trans one.plan
  file file opened counted := by
    obtain ⟨between, openedMiddle, countedMiddle, port, name, content⟩ :=
      one.file file opened counted
    obtain ⟨last, openedLast, countedLast, portLast, nameLast, contentLast⟩ :=
      two.file between openedMiddle countedMiddle
    refine ⟨last, openedLast, countedLast, portLast.trans port, nameLast.trans name, ?_⟩
    rw [contentLast, content, List.append_assoc]

theorem Writes.push (piece : Bytes) (session : Session) :
    Writes piece session { session with openFile? := session.openFile?.map (.push piece) } where
  output := rfl
  disk := rfl
  plan := rfl
  file file opened counted := by
    rw [opened]
    exact ⟨_, rfl, counted.push piece, rfl, rfl, file.content_push piece⟩

def Settled (session : Session) : Prop :=
  ∀ file, session.openFile? = some file → file.pendingSize = 0

end Session

namespace Run

variable {session : Session}

theorem writePending_accepted (accepts : session.plan.AcceptsFiles) :
    ∃ after, writePending session = (.ok (.ok ()), after) ∧ session.Writes [] after ∧
      after.Settled := by
  rw [writePending, bind_of_ok (currentFile_apply session)]
  cases opened : session.openFile? with
  | none =>
      refine ⟨session, rfl, .nothing session, ?_⟩
      intro file found
      rw [opened] at found
      cases found
  | some file =>
      dsimp only
      by_cases settled : file.pendingSize = 0
      · rw [if_pos settled]
        refine ⟨session, rfl, .nothing session, ?_⟩
        intro other found
        obtain rfl : file = other := Option.some.inj (opened.symm.trans found)
        exact settled
      · rw [if_neg settled, writeBytes, bind_of_ok (stream_accepted accepts)]
        dsimp only
        rw [modifyFile, bind_of_ok (modify_apply _ _)]
        refine ⟨_, rfl, ⟨rfl, rfl, rfl, ?_⟩, ?_⟩
        · intro other found counted
          obtain rfl : file = other := Option.some.inj (opened.symm.trans found)
          refine ⟨{ file with bytes := file.bytes ++ file.pending.reverse.flatten
                              pending := [], pendingSize := 0 }, ?_, rfl, rfl, rfl, ?_⟩
          · simp [noted, changed, opened]
          · simp [OpenFile.content]
        · intro other found
          simp only [noted, changed, opened, Option.map_some, Option.some.injEq] at found
          rw [← found]

theorem writePiece_accepted (accepts : session.plan.AcceptsFiles) (piece : Bytes) :
    ∃ after, writePiece piece session = (.ok (.ok ()), after) ∧ session.Writes piece after := by
  rw [writePiece, bind_of_ok (currentFile_apply session)]
  cases opened : session.openFile? with
  | none =>
      refine ⟨session, rfl, rfl, rfl, rfl, ?_⟩
      intro file found
      rw [opened] at found
      cases found
  | some file =>
      dsimp only
      split
      · exact ⟨_, rfl, .push piece session⟩
      · obtain ⟨middle, result, writes, _⟩ := writePending_accepted accepts
        rw [bind_of_ok result]
        exact ⟨_, rfl, writes.trans (.push piece middle)⟩

theorem writePieces_accepted (accepts : session.plan.AcceptsFiles) (pieces : List Bytes) :
    ∃ after, writePieces pieces session = (.ok (.ok ()), after) ∧
      session.Writes pieces.flatten after := by
  induction pieces generalizing session with
  | nil => exact ⟨session, rfl, .nothing session⟩
  | cons piece rest ih =>
      obtain ⟨middle, result, writes⟩ := writePiece_accepted accepts piece
      obtain ⟨after, resultRest, writesRest⟩ := ih (writes.plan.symm ▸ accepts)
      rw [writePieces, bind_of_ok result]
      exact ⟨after, resultRest, writes.trans writesRest⟩

theorem writeRow_accepted (accepts : session.plan.AcceptsFiles) (delimiter : UInt8)
    (cells : List String) :
    ∃ after, writeRow delimiter cells session = (.ok (), after) ∧
      session.Writes (DelimitedLayout.rowBytes delimiter cells) after := by
  obtain ⟨after, result, writes⟩ :=
    writePieces_accepted accepts (DelimitedLayout.rowPieces delimiter cells)
  refine ⟨after, ?_, writes⟩
  rw [writeRow, bind_of_ok result]
  rfl

theorem flushFile_accepted (accepts : session.plan.AcceptsFiles) :
    ∃ after, flushFile session = (.ok (.ok ()), after) ∧ session.Writes [] after ∧
      after.Settled := by
  obtain ⟨middle, result, writes, settled⟩ := writePending_accepted accepts
  have unchanged : noted .flushFile true (changed id middle) = noted .flushFile true middle := by
    simp [changed]
  rw [flushFile, bind_of_ok result]
  dsimp only
  rw [stream_accepted (writes.plan.symm ▸ accepts), unchanged]
  exact ⟨_, rfl, ⟨writes.output, writes.disk, writes.plan, writes.file⟩, settled⟩

end Run

end Sluice
