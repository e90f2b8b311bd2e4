import Sluice.Proofs.Flow.Handling
import Sluice.Proofs.Stages

/-!
# Draining accounts for every entry

Whatever the handling of an entry does, and whatever calls fail: the entries that wait at the
default port are handled one after the other, until none waits, one cannot be taken, or a failure
is fatal.  The others go on waiting, and what is counted are the handlings.
-/

set_option autoImplicit false

namespace Sluice

open Run

/-! ## What a draining comes to -/

/-- The failure ends a draining: none is skipped, or this one concerns more than its entry. -/
def Failure.Fatal (policy : Settings.EntryPolicy) (failure : Failure) : Prop :=
  policy = .fail ∨ failure.isEntryScoped = false

def Outcome.isEntryScoped (outcome : Outcome Unit) : Bool :=
  match outcome with
  | .ok _ => false
  | .error failure => failure.isEntryScoped

instance : Add DrainCounts where
  add first second := ⟨first.entries + second.entries, first.skipped + second.skipped⟩

theorem Run.DrainCounts.add_eq (first second : DrainCounts) :
    first + second = ⟨first.entries + second.entries, first.skipped + second.skipped⟩ := rfl

namespace HandlingLog

/-- How many handlings there are, and how many of them have failed for a reason of their entry. -/
def counts (log : HandlingLog) : DrainCounts :=
  ⟨log.length, log.countP fun handling => Outcome.isEntryScoped handling.2⟩

/-- No failure of the log ends a draining. -/
def Unbroken (policy : Settings.EntryPolicy) (log : HandlingLog) : Prop :=
  ∀ entry failure, (entry, .error failure) ∈ log → ¬ failure.Fatal policy

end HandlingLog

/-- How the draining of an open port ends: all entries that waited were handled, or the handling of
one has failed fatally, or one that waits cannot be taken.  The log tells of all handlings in their
order, and the list of all entries that are left. -/
inductive DrainEnds (policy : Settings.EntryPolicy) (handle : Entry → Run Unit) (opened : Session)
    (queue : List Entry) : HandlingLog → List Entry → Outcome DrainCounts → Session → Prop where
  | finished {log : HandlingLog} {after : Session} (handles : Handles handle opened log after)
      (order : log.entries = queue) (unbroken : log.Unbroken policy) :
      DrainEnds policy handle opened queue log [] (.ok log.counts) after
  | aborted {log : HandlingLog} {entry : Entry} {rest : List Entry} {failure : Failure}
      {after : Session} (handles : Handles handle opened (log ++ [(entry, .error failure)]) after)
      (order : log.entries ++ entry :: rest = queue) (unbroken : log.Unbroken policy)
      (fatal : failure.Fatal policy) :
      DrainEnds policy handle opened queue (log ++ [(entry, .error failure)]) rest
        (.error failure) after
  | refused {log : HandlingLog} {entry : Entry} {rest : List Entry} {failure : Failure}
      {stopped after : Session} (handles : Handles handle opened log stopped)
      (order : log.entries ++ entry :: rest = queue) (unbroken : log.Unbroken policy)
      (refuses : next defaultPort stopped = (.error failure, after)) :
      DrainEnds policy handle opened queue log (entry :: rest) (.error failure) after

variable {policy : Settings.EntryPolicy} {handle : Entry → Run Unit} {queue left : List Entry}
  {before taken middle after : Session} {log : HandlingLog} {outcome : Outcome DrainCounts}
  {entry : Entry} {first : Outcome Unit}

/-- Each entry is handled or left. -/
theorem DrainEnds.whole (ends : DrainEnds policy handle before queue log left outcome after) :
    log.entries ++ left = queue := by
  cases ends with
  | finished handles order unbroken => rw [List.append_nil, order]
  | aborted handles order unbroken fatal =>
      rw [← order, HandlingLog.entries, List.map_append, List.append_assoc]
      rfl
  | refused handles order unbroken refuses => exact order

/-! ## What is counted -/

theorem skips_eq_false_iff {failure : Failure} :
    skips policy failure = false ↔ failure.Fatal policy := by
  cases policy <;> simp [skips, Failure.Fatal]

theorem isEntryScoped_of_skips {failure : Failure} (skipped : skips policy failure = true) :
    failure.isEntryScoped = true := by
  rw [skips, Bool.and_eq_true] at skipped
  exact skipped.2

namespace HandlingLog

theorem unbroken_iff : log.Unbroken policy ↔ log.Failing (skips policy) := by
  simp only [Unbroken, Failing, ← skips_eq_false_iff, Bool.not_eq_false]

theorem Unbroken.cons (passes : ∀ failure, first = .error failure → skips policy failure = true)
    (unbroken : log.Unbroken policy) : Unbroken policy ((entry, first) :: log) :=
  unbroken_iff.2 ((unbroken_iff.1 unbroken).cons passes)

theorem counts_append (log more : HandlingLog) :
    counts (log ++ more) = log.counts + more.counts := by
  rw [counts, List.length_append, List.countP_append]
  rfl

theorem skipped_le_entries (log : HandlingLog) : log.counts.skipped ≤ log.counts.entries :=
  List.countP_le_length

/-- What is not skipped has succeeded. -/
theorem Unbroken.entries_sub_skipped (unbroken : log.Unbroken policy) :
    log.counts.entries - log.counts.skipped = log.succeeded.length := by
  have others : ∀ handling ∈ log,
      decide (¬ handling.2.isOk = true) = true ↔ handling.2.isEntryScoped = true := by
    rintro ⟨entry, outcome⟩ member
    cases outcome with
    | ok value => exact iff_of_false nofun nofun
    | error failure =>
        have skipped := unbroken_iff.1 unbroken entry failure member
        exact iff_of_true rfl (isEntryScoped_of_skips skipped)
  have parts : log.length = log.succeeded.length + log.counts.skipped := by
    rw [succeeded, ← List.countP_eq_length_filter, counts, ← List.countP_congr others]
    exact List.length_eq_countP_add_countP _
  exact Nat.sub_eq_of_eq_add parts

end HandlingLog

/-! ## Draining an open port -/

def SameQueue (before after : Session) : Prop :=
  after.inputs.lookup defaultPort = before.inputs.lookup defaultPort

instance : IsPreorder Session SameQueue where
  refl _ := rfl
  trans _ _ _ first second := second.trans first

theorem inward_sameQueue : Inward SameQueue where
  output _ _ _ := rfl
  journal _ _ _ := rfl

abbrev KeepsQueue {α : Type} (action : Run α) : Prop := Within SameQueue action

theorem BuiltinStage.keepsQueue {stage : Stage} (builtin : BuiltinStage stage) (entry : Entry) :
    KeepsQueue (stage.handle entry) := by
  cases builtin with
  | handling policy alone => exact alone.within inward_sameQueue.puts (fun _ _ => rfl) entry
  | writing layout policy => exact layout.handle_within inward_sameQueue.streams entry

theorem Run.DrainCounts.including_eq
    (passes : ∀ failure, first = .error failure → skips policy failure = true)
    (counts : DrainCounts) (entry : Entry) :
    counts.including first = counts + HandlingLog.counts [(entry, first)] := by
  cases first with
  | ok value => rfl
  | error failure =>
      have concerns := isEntryScoped_of_skips (passes failure rfl)
      simp [DrainCounts.including, HandlingLog.counts, DrainCounts.add_eq, Outcome.isEntryScoped,
        concerns, Except.isOk, Except.toBool]

/-- What ends the draining after an entry has passed ends it with that entry, too. -/
theorem DrainEnds.cons (takes : next defaultPort before = (.ok entry, taken))
    (handled : handle entry taken = (first, middle))
    (passes : ∀ failure, first = .error failure → skips policy failure = true)
    (ends : DrainEnds policy handle middle queue log left outcome after) :
    DrainEnds policy handle before (entry :: queue) ((entry, first) :: log) left
      (outcome.map fun more => HandlingLog.counts [(entry, first)] + more) after := by
  cases ends with
  | finished handles order unbroken =>
      rw [Except.map, ← HandlingLog.counts_append]
      exact .finished (.entry takes handled handles) (congrArg _ order) (unbroken.cons passes)
  | @aborted log last _ failure after handles order unbroken fatal =>
      have orderToo : HandlingLog.entries ((entry, first) :: log) ++ last :: left =
          entry :: queue := congrArg _ order
      exact .aborted (.entry takes handled handles) orderToo (unbroken.cons passes) fatal
  | refused handles order unbroken refuses =>
      exact .refused (.entry takes handled handles) (congrArg _ order) (unbroken.cons passes)
        refuses

/-- The bound on the rounds never ends a draining: however far it exceeds what waits, the same comes
of it. -/
theorem drainEntries_ends (apart : ∀ entry, KeepsQueue (handle entry))
    (waiting : before.inputs.lookup defaultPort = some ⟨queue, true⟩) :
    ∃ log left outcome after, DrainEnds policy handle before queue log left outcome after ∧
      after.inputs.lookup defaultPort = some ⟨left, true⟩ ∧
      ∀ spare counts, drainEntries policy handle (queue.length + spare) counts before =
        (outcome.map fun more => counts + more, after) := by
  have nothing : HandlingLog.Unbroken policy [] := fun _ _ member => by cases member
  -- The counts so far are any, so that the induction goes on behind each entry.
  induction queue generalizing before with
  | nil =>
      refine ⟨[], [], _, before, .finished (.done before) rfl nothing, waiting,
        fun spare counts => ?_⟩
      cases spare with
      | zero => rfl
      | succ spare =>
          rw [List.length_nil, Nat.zero_add, drainEntries, bind_of_ok (hasNext_waiting waiting)]
          rfl
  | cons entry rest ih =>
      have oneMore (spare : Nat) : (entry :: rest).length + spare = rest.length + spare + 1 :=
        Nat.add_right_comm ..
      rcases next_waiting waiting with ⟨failure, _, refuses⟩ | takes
      · refine ⟨[], entry :: rest, .error failure, _, .refused (.done before) rfl nothing refuses,
          waiting, fun spare counts => ?_⟩
        rw [oneMore]
        exact drainEntries_of_refused waiting refuses _ counts
      · rcases handled : handle entry _ with ⟨first, middle⟩
        have waitingMiddle : middle.inputs.lookup defaultPort = some ⟨rest, true⟩ := by
          have same := apart entry (noted (.next defaultPort) true
            (setPort defaultPort ⟨rest, true⟩ before))
          rw [handled] at same
          exact same.trans (lookup_setPort before _)
        rcases passes_or_breaks policy first with passes | ⟨failure, rfl, fatal⟩
        · obtain ⟨log, left, outcome, after, ends, waitingAfter, drains⟩ := ih waitingMiddle
          refine ⟨_, left, _, after, ends.cons takes handled passes, waitingAfter,
            fun spare counts => ?_⟩
          rw [oneMore, drainEntries_of_passed waiting takes handled passes, drains,
            DrainCounts.including_eq passes counts entry]
          cases outcome with
          | error failure => rfl
          | ok more => simp only [Except.map, DrainCounts.add_eq, Nat.add_assoc]
        · refine ⟨[(entry, .error failure)], rest, .error failure, middle,
            .aborted (.entry takes handled (.done middle)) rfl nothing (skips_eq_false_iff.1 fatal),
            waitingMiddle, fun spare counts => ?_⟩
          rw [oneMore]
          exact drainEntries_of_fatal waiting takes handled fatal _ counts

/-! ## Finding and opening the port -/

/-- A port that cannot be found and opened keeps its entries waiting. -/
theorem openDefault_waiting (before : Session) :
    (∃ failure after, openDefault before = (.error failure, after) ∧
      after.waiting defaultPort = before.waiting defaultPort) ∨
    ∃ opened, openDefault before = (.ok (), opened) ∧
      opened.inputs.lookup defaultPort = some ⟨before.waiting defaultPort, true⟩ := by
  cases held : before.inputs.lookup defaultPort with
  | none =>
      rcases call_cases (.findInput defaultPort) _ before with
        ⟨failure, fails, _⟩ | ⟨_, _, _, finds, _⟩
      · exact .inl ⟨failure, _, bind_of_error fails, rfl⟩
      · rw [held] at finds
        cases finds
  | some input =>
      obtain ⟨entries, isOpen⟩ := input
      have waits := Session.waiting_of_held held
      rw [waits]
      rcases openDefault_cases held with ⟨failure, _, fails⟩ | ⟨failure, _, fails⟩ | opens
      · exact .inl ⟨failure, _, fails, waits⟩
      · exact .inl ⟨failure, _, fails, waits⟩
      · exact .inr ⟨_, opens, lookup_setPort _ _⟩

/-- **Draining accounts for every entry.**  If the default port cannot be found and opened, that is
the outcome, and all entries go on waiting.  Otherwise they are handled in their order, each once,
until none waits, the handling of one has failed fatally, or one could not be taken; the rest goes
on waiting.  A failure that ends the draining is its outcome.  Without one the counts are those of
the handlings, and the entries that are not counted as skipped are those whose handling has
succeeded.  The draining ends by itself, as a higher bound on its rounds changes nothing.  All that
is asked of the handling is that it leaves the port alone. -/
theorem entries_accounted_for (policy : Settings.EntryPolicy) {handle : Entry → Run Unit}
    (apart : ∀ entry, KeepsQueue (handle entry)) (before : Session) :
    let queue := before.waiting defaultPort
    let (outcome, after) := drain policy handle before
    (∃ failure, openDefault before = (.error failure, after) ∧ outcome = .error failure ∧
      after.waiting defaultPort = queue) ∨
    ∃ opened log, openDefault before = (.ok (), opened) ∧
      DrainEnds policy handle opened queue log (after.waiting defaultPort) outcome after ∧
      log.entries ++ after.waiting defaultPort = queue ∧
      (∀ counts, outcome = .ok counts → counts.skipped ≤ counts.entries ∧
        counts.entries - counts.skipped = log.succeeded.length) ∧
      ∀ spare, drainEntries policy handle (queue.length + spare) ⟨0, 0⟩ opened =
        (outcome, after) := by
  dsimp only
  rcases openDefault_waiting before with ⟨failure, after, fails, waits⟩ | ⟨opened, opens, waiting⟩
  · have result : drain policy handle before = (.error failure, after) := by
      rw [drain_eq, bind_of_error fails]
    rw [result]
    exact .inl ⟨failure, fails, rfl, waits⟩
  · obtain ⟨log, left, outcome, after, ends, waitingAfter, drains⟩ :=
      drainEntries_ends apart waiting
    have fromZero (spare : Nat) : drainEntries policy handle
        ((before.waiting defaultPort).length + spare) ⟨0, 0⟩ opened = (outcome, after) := by
      rw [drains]
      cases outcome with
      | error failure => rfl
      | ok counts => simp only [Except.map, DrainCounts.add_eq, Nat.zero_add]
    have result : drain policy handle before = (outcome, after) :=
      (drain_of_opened opens waiting policy handle).trans (fromZero 0)
    rw [result, Session.waiting_of_held waitingAfter]
    refine .inr ⟨opened, log, opens, ends, ends.whole, ?_, fromZero⟩
    rintro counts rfl
    cases ends with
    | finished handles order unbroken =>
        exact ⟨log.skipped_le_entries, unbroken.entries_sub_skipped⟩

/-- A file among records is skipped and counted, or it ends the draining and leaves what is behind
it. -/
theorem entries_accounted_for_file_between :
    let routing : FieldRouting := ⟨"rest", []⟩
    let entries := [Entry.record .empty, .file (.ofBytes "a.txt" []), .record .empty]
    (∀ entry, KeepsQueue (routing.handle entry)) ∧
      ∃ opened, openDefault (.ofEntries entries) = (.ok (), opened) ∧
        (∃ log after, log.succeeded.length = 2 ∧
          DrainEnds .skip routing.handle opened entries log [] (.ok ⟨3, 1⟩) after) ∧
        ∃ log after, DrainEnds .fail routing.handle opened entries log [.record .empty]
          (.error (.typeMismatch "record" "file 'a.txt'")) after := by
  intro routing entries
  have apart := (BuiltinStage.handling .skip (.byField routing)).keepsQueue
  obtain ⟨opened, opens⟩ : ∃ opened, openDefault (.ofEntries entries) = (.ok (), opened) := ⟨_, rfl⟩
  refine ⟨apart, opened, opens, ?_, ?_⟩
  · rcases entries_accounted_for .skip apart (.ofEntries entries) with
      ⟨_, fails, _⟩ | ⟨_, log, opensToo, ends, _, counted, _⟩
    · cases opens.symm.trans fails
    · cases opens.symm.trans opensToo
      exact ⟨log, _, (counted ⟨3, 1⟩ rfl).2.symm, ends⟩
  · rcases entries_accounted_for .fail apart (.ofEntries entries) with
      ⟨_, fails, _⟩ | ⟨_, log, opensToo, ends, _⟩
    · cases opens.symm.trans fails
    · cases opens.symm.trans opensToo
      exact ⟨log, _, ends⟩

end Sluice
