import Sluice.Proofs.Flow.Run
import Sluice.Proofs.Outcome

/-!
# What runs add to the journal

The journal of a run is read as a trace, the earliest call first.  The calls of a step belong to a
language of traces that is closed under appending: while a file is open they neither open nor close
one, and while none is open they open and close files one after the other.
-/

set_option autoImplicit false

namespace Sluice

/-! ## Traces -/

namespace PortCall

def Free : PortCall → Prop
  | findInput _ => True
  | openInput _ => True
  | next _ => True
  | writeRecord _ => True
  | _ => False

def Inner : PortCall → Prop
  | writeFile _ => True
  | flushFile => True
  | call => call.Free

end PortCall

def InnerTrace (trace : List PortEvent) : Prop := ∀ event ∈ trace, event.call.Inner

/-- A trace in which each file that is opened is closed once, before the next one is opened, and is
written to only in between.  The output is not closed in it. -/
inductive FilesReleased : List PortEvent → Prop where
  | nil : FilesReleased []
  | free {event : PortEvent} {rest : List PortEvent} (aside : event.call.Free)
      (tail : FilesReleased rest) : FilesReleased (event :: rest)
  | notOpened {port name : String} {rest : List PortEvent} (tail : FilesReleased rest) :
      FilesReleased (⟨.newFile port name, false⟩ :: rest)
  | file {port name : String} {inner rest : List PortEvent} {closed : Bool}
      (inside : InnerTrace inner) (tail : FilesReleased rest) :
      FilesReleased (⟨.newFile port name, true⟩ :: (inner ++ ⟨.closeFile, closed⟩ :: rest))

theorem InnerTrace.append {first second : List PortEvent} (one : InnerTrace first)
    (two : InnerTrace second) : InnerTrace (first ++ second) := by
  intro event member
  rcases List.mem_append.1 member with member | member
  · exact one event member
  · exact two event member

theorem FilesReleased.append {first second : List PortEvent} (one : FilesReleased first)
    (two : FilesReleased second) : FilesReleased (first ++ second) := by
  induction one with
  | nil => exact two
  | free aside tail ih => exact .free aside ih
  | notOpened tail ih => exact .notOpened ih
  | file inside tail ih =>
      rw [List.cons_append, List.append_assoc, List.cons_append]
      exact .file inside ih

theorem FilesReleased.output_open {trace : List PortEvent} (released : FilesReleased trace) :
    ∀ event ∈ trace, event.call ≠ .close := by
  have inner_open : ∀ event : PortEvent, event.call.Inner → event.call ≠ .close := by
    intro event inner closes
    rw [closes] at inner
    exact inner
  induction released with
  | nil => simp
  | @free event rest aside tail ih =>
      intro other member
      rcases List.mem_cons.1 member with rfl | member
      · intro closes
        rw [closes] at aside
        exact aside
      · exact ih other member
  | notOpened tail ih =>
      intro other member
      rcases List.mem_cons.1 member with rfl | member
      · simp
      · exact ih other member
  | file inside tail ih =>
      intro other member
      simp only [List.mem_cons, List.mem_append] at member
      rcases member with rfl | member | rfl | member
      · simp
      · exact inner_open other (inside other member)
      · simp
      · exact ih other member

/-- A set of traces that every trace of free calls can be put between. -/
class TraceLanguage (language : List PortEvent → Prop) : Prop where
  nil : language []
  append {first second : List PortEvent} : language first → language second →
    language (first ++ second)
  free (event : PortEvent) : event.call.Free → language [event]

instance : TraceLanguage InnerTrace where
  nil := by simp [InnerTrace]
  append := InnerTrace.append
  free event aside := by
    intro other member
    obtain rfl := List.mem_singleton.1 member
    obtain ⟨call, succeeded⟩ := other
    cases call <;> first | exact aside | exact aside.elim

instance : TraceLanguage FilesReleased where
  nil := .nil
  append := FilesReleased.append
  free _ aside := .free aside .nil

/-! ## What a run adds to the journal -/

namespace Run

variable {α β : Type} {isOpen : Bool} {language : List PortEvent → Prop}

/-- While a file is open, or while none is, the journal grows by a trace of the language. -/
def Logs (isOpen : Bool) (language : List PortEvent → Prop) (before after : Session) : Prop :=
  before.openFile?.isSome = isOpen →
    after.openFile?.isSome = isOpen ∧ after.plan = before.plan ∧
      ∃ added, after.journal = added.reverse ++ before.journal ∧ language added

instance [TraceLanguage language] : IsPreorder Session (Logs isOpen language) where
  refl session := fun same => ⟨same, rfl, [], rfl, TraceLanguage.nil⟩
  trans first middle last := by
    intro toMiddle toLast same
    obtain ⟨sameMiddle, planMiddle, one, journalMiddle, oneIn⟩ := toMiddle same
    obtain ⟨sameLast, planLast, two, journalLast, twoIn⟩ := toLast sameMiddle
    refine ⟨sameLast, planLast.trans planMiddle, one ++ two, ?_, TraceLanguage.append oneIn twoIn⟩
    rw [journalLast, journalMiddle, List.reverse_append, List.append_assoc]

/-- A change of the session that the journal does not show. -/
def Unseen (before after : Session) : Prop :=
  after.openFile?.isSome = before.openFile?.isSome ∧ after.plan = before.plan ∧
    after.journal = before.journal

theorem logs_of_unseen [TraceLanguage language] {before after : Session}
    (unseen : Unseen before after) : Logs isOpen language before after := by
  intro same
  exact ⟨unseen.1.trans same, unseen.2.1, [], by rw [unseen.2.2]; rfl, TraceLanguage.nil⟩

theorem logs_noted {made : PortCall} {succeeded : Bool} {before after : Session}
    (unseen : Unseen before after) (admits : language [⟨made, succeeded⟩]) :
    Logs isOpen language before (noted made succeeded after) := by
  intro same
  refine ⟨unseen.1.trans same, unseen.2.1, [⟨made, succeeded⟩], ?_, admits⟩
  simp [noted, unseen.2.2]

theorem unseen_self (session : Session) : Unseen session session := ⟨rfl, rfl, rfl⟩

theorem call_logs {made : PortCall} {action : Session → Outcome (α × Session)}
    (admits : ∀ succeeded, language [⟨made, succeeded⟩])
    (unseen : ∀ before value after, action before = .ok (value, after) → Unseen before after) :
    Within (Logs isOpen language) (call made action) := by
  intro session
  rcases call_cases made action session with
    ⟨failure, result, _⟩ | ⟨value, after, _, effect, result⟩
  · rw [result]
    exact logs_noted (unseen_self session) (admits false)
  · rw [result]
    exact logs_noted (unseen session value after effect) (admits true)

theorem modify_logs [TraceLanguage language] {change : Session → Session}
    (unseen : ∀ session, Unseen session (change session)) :
    Within (Logs isOpen language) (modify change) :=
  fun session => logs_of_unseen (unseen session)

/-! ## Input and records -/

section Free

variable [TraceLanguage language]

theorem findInput_logs (port : String) : Within (Logs isOpen language) (findInput port) := by
  refine call_logs (fun succeeded => TraceLanguage.free _ trivial) ?_
  intro before value after effect
  split at effect
  · cases effect
    exact unseen_self before
  · cases effect

theorem openInput_logs (port : String) : Within (Logs isOpen language) (openInput port) := by
  refine call_logs (fun succeeded => TraceLanguage.free _ trivial) ?_
  intro before value after effect
  split at effect
  · cases effect
    exact unseen_self before
  · cases effect

theorem next_logs (port : String) : Within (Logs isOpen language) (next port) := by
  refine call_logs (fun succeeded => TraceLanguage.free _ trivial) ?_
  intro before value after effect
  split at effect
  · cases effect
  · cases effect
  · cases effect
  · cases effect
    exact unseen_self before

theorem writeRecord_logs (port : String) (record : Record) :
    Within (Logs isOpen language) (writeRecord port record) := by
  refine call_logs (fun succeeded => TraceLanguage.free _ trivial) ?_
  intro before value after effect
  cases added : before.output.addRecord port record with
  | error failure => simp [added, bind, Except.bind] at effect
  | ok output =>
      simp only [added, bind, Except.bind, Except.ok.injEq, Prod.mk.injEq] at effect
      rw [← effect.2]
      exact ⟨rfl, rfl, rfl⟩

theorem drain_logs {policy : Settings.EntryPolicy} {handle : Entry → Run Unit}
    (handles : ∀ entry, Within (Logs isOpen language) (handle entry)) :
    Within (Logs isOpen language) (drain policy handle) :=
  Within.drain (findInput_logs defaultPort) (openInput_logs defaultPort)
    ((next_logs defaultPort).bind fun entry => (handles entry).attempt)

end Free

/-! ## The file being written -/

theorem stream_logs {made : PortCall} {change : OpenFile → OpenFile} (inner : made.Inner) :
    Within (Logs true InnerTrace) (stream made change) := by
  have admits : ∀ succeeded, InnerTrace [⟨made, succeeded⟩] := by
    intro succeeded event member
    obtain rfl := List.mem_singleton.1 member
    exact inner
  intro session
  rcases stream_cases made change session with ⟨fault, _, result⟩ | ⟨_, result⟩
  · rw [result]
    exact logs_noted (unseen_self session) (admits false)
  · rw [result]
    refine logs_noted ⟨?_, rfl, rfl⟩ (admits true)
    simp [changed]

theorem modifyFile_logs (change : OpenFile → OpenFile) :
    Within (Logs true InnerTrace) (modifyFile change) := by
  refine modify_logs fun session => ⟨?_, rfl, rfl⟩
  simp

theorem streams_logs : Streams (Logs true InnerTrace) where
  writes _ := stream_logs trivial
  flushes := stream_logs trivial
  changes change _ := modifyFile_logs change

/-! ## Opening and closing -/

def Total (action : Run α) : Prop := ∀ session, ∃ value after, action session = (.ok value, after)

theorem Total.bind {action : Run α} {next : α → Run β} (first : Total action)
    (rest : ∀ value, Total (next value)) : Total (action >>= next) := by
  intro session
  obtain ⟨value, middle, result⟩ := first session
  rw [bind_of_ok result]
  exact rest value middle

theorem total_pure (value : α) : Total (pure value : Run α) := fun session => ⟨value, session, rfl⟩

theorem total_attempt (action : Run α) : Total (attempt action) := fun _ => ⟨_, _, rfl⟩

theorem total_stream (made : PortCall) (change : OpenFile → OpenFile) :
    Total (stream made change) := by
  intro session
  rcases stream_cases made change session with ⟨fault, _, result⟩ | ⟨_, result⟩
  · exact ⟨_, _, result⟩
  · exact ⟨_, _, result⟩

theorem total_writePending : Total writePending := by
  have total_currentFile : Total currentFile := fun session => ⟨_, session, rfl⟩
  refine total_currentFile.bind fun file? => ?_
  cases file? with
  | none => exact total_pure _
  | some file =>
      dsimp only
      split
      · exact total_pure _
      · refine (total_stream _ _).bind fun written => ?_
        cases written with
        | error fault => exact total_pure _
        | ok value => exact fun after => ⟨_, _, rfl⟩

theorem total_flushFile : Total flushFile := by
  refine total_writePending.bind fun written => ?_
  cases written with
  | error fault => exact total_pure _
  | ok value => exact total_stream _ _

theorem total_writeChunks (most : Nat) (bytes : Bytes) : Total (writeChunks most bytes) := by
  induction most generalizing bytes with
  | zero => exact total_pure _
  | succ most ih =>
      rw [writeChunks]
      split
      · exact total_pure _
      · refine (total_stream _ _).bind fun written => ?_
        cases written with
        | error fault => exact total_pure _
        | ok value => exact ih _

theorem total_copyDelivery (delivery : Delivery) : Total (copyDelivery delivery) := by
  refine (total_writeChunks _ _).bind fun written => ?_
  cases written with
  | error fault => exact total_pure _
  | ok value =>
      dsimp only
      split <;> exact total_pure _

theorem newFile_opens {port name : String} {before after : Session} {value : Unit}
    (opened : newFile port name before = (.ok value, after)) :
    after.openFile?.isSome = true ∧ after.plan = before.plan ∧
      after.journal = ⟨.newFile port name, true⟩ :: before.journal := by
  rw [newFile] at opened
  rcases call_cases (α := Unit) _ _ before with
    ⟨failure, result, _⟩ | ⟨_, middle, _, effect, result⟩
  · rw [result] at opened
    cases opened
  · rw [result] at opened
    cases opened
    obtain ⟨output, _, effect⟩ := Outcome.bind_eq_ok.1 effect
    cases effect
    exact ⟨rfl, rfl, rfl⟩

theorem newFile_fails {port name : String} {before after : Session} {failure : Failure}
    (failed : newFile port name before = (.error failure, after)) :
    after = noted (.newFile port name) false before := by
  rw [newFile] at failed
  rcases call_cases (α := Unit) _ _ before with ⟨_, result, _⟩ | ⟨_, _, _, _, result⟩
  · rw [result] at failed
    cases failed
    rfl
  · rw [result] at failed
    cases failed

theorem closeFile_closes {session : Session} (isOpen : session.openFile?.isSome = true) :
    ∃ closed, (closeFile session).2.openFile? = none ∧
      (closeFile session).2.plan = session.plan ∧
      (closeFile session).2.journal = ⟨.closeFile, closed⟩ :: session.journal := by
  obtain ⟨file, opened⟩ := Option.isSome_iff_exists.1 isOpen
  rcases closeFile_cases opened with ⟨failure, _, result⟩ | ⟨_, result⟩
  · exact ⟨false, by rw [result]; exact ⟨rfl, rfl, rfl⟩⟩
  · exact ⟨true, by rw [result]; exact ⟨rfl, rfl, rfl⟩⟩

/-- What is done with a file between its opening and its closing cannot keep it from being closed,
and what follows the closing makes no call. -/
theorem file_cases {inside : Run α} {ending : α → Outcome Unit → Run β} (total : Total inside)
    (still : ∀ value closed session, (ending value closed session).2 = session)
    (port name : String) (session : Session) :
    let whole := newFile port name >>= fun _ =>
      inside >>= fun value => attempt closeFile >>= fun closed => ending value closed
    (whole session).2 = noted (.newFile port name) false session ∨
      ∃ opened, newFile port name session = (.ok (), opened) ∧
        (whole session).2 = (closeFile (inside opened).2).2 := by
  intro whole
  rcases opening : newFile port name session with ⟨outcome, opened⟩
  cases outcome with
  | error failure =>
      left
      rw [show whole session = _ from bind_of_error opening, newFile_fails opening]
  | ok _ =>
      obtain ⟨value, worked, inner⟩ := total opened
      refine .inr ⟨opened, rfl, ?_⟩
      rw [show whole session = _ from bind_of_ok opening, bind_of_ok inner, attempt_bind, still,
        inner]

theorem file_logs {port name : String} {inside : Run α} {ending : α → Outcome Unit → Run β}
    (logs : Within (Logs true InnerTrace) inside) (total : Total inside)
    (still : ∀ value closed session, (ending value closed session).2 = session) :
    Within (Logs false FilesReleased) (newFile port name >>= fun _ =>
      inside >>= fun value => attempt closeFile >>= fun closed => ending value closed) := by
  intro session
  rcases file_cases total still port name session with ends | ⟨opened, opening, ends⟩
  · rw [ends]
    exact logs_noted (unseen_self session) (.notOpened .nil)
  · obtain ⟨isOpen, samePlan, journal⟩ := newFile_opens opening
    obtain ⟨stillOpen, workedPlan, added, workedJournal, isInner⟩ := logs opened isOpen
    obtain ⟨closed, shut, closedPlan, closedJournal⟩ := closeFile_closes stillOpen
    rw [ends]
    intro _
    refine ⟨by rw [shut]; rfl, closedPlan.trans (workedPlan.trans samePlan),
      ⟨.newFile port name, true⟩ :: (added ++ ⟨.closeFile, closed⟩ :: []), ?_,
      .file isInner .nil⟩
    rw [closedJournal, workedJournal, journal]
    simp

theorem copyInto_logs (port name : String) (delivery : Delivery) :
    Within (Logs false FilesReleased) (copyInto port name delivery) := by
  refine file_logs (streams_logs.copyDelivery delivery) (total_copyDelivery delivery) ?_
  intro copied closed session
  cases copied with
  | error fault => rfl
  | ok size => cases closed <;> rfl

end Run

end Sluice
