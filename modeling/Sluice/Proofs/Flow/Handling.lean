import Sluice.Proofs.Flow.Memory
import Sluice.Proofs.Record

/-!
# Handling the entries of a memory port

The handlings of a run are logged with their outcomes.  On memory a drained port yields such a log:
either it goes through all entries, or it ends at the first failure that the policy does not skip.
A log that leaves the failing entries out is again one, if failing has left no trace.
-/

set_option autoImplicit false

namespace Sluice

/-- The entries that were handled, with the outcomes. -/
abbrev HandlingLog := List (Entry × Outcome Unit)

namespace HandlingLog

def entries (log : HandlingLog) : List Entry := log.map Prod.fst

def succeeded (log : HandlingLog) : HandlingLog := log.filter fun handling => handling.2.isOk

def Failing (condition : Failure → Bool) (log : HandlingLog) : Prop :=
  ∀ entry failure, (entry, .error failure) ∈ log → condition failure = true

theorem Failing.cons {condition : Failure → Bool} {log : HandlingLog} {entry : Entry}
    {outcome : Outcome Unit}
    (first : ∀ failure, outcome = .error failure → condition failure = true)
    (rest : Failing condition log) : Failing condition ((entry, outcome) :: log) := by
  intro other failure member
  rcases List.mem_cons.1 member with same | member
  · exact first failure (Prod.mk.inj same).2.symm
  · exact rest other failure member

end HandlingLog

/-- Entries are taken and handled one after the other, each where the one before has ended. -/
inductive Handles (handle : Entry → Run Unit) : Session → HandlingLog → Session → Prop where
  | done (session : Session) : Handles handle session [] session
  | entry {before taken middle after : Session} {entry : Entry} {outcome : Outcome Unit}
      {log : HandlingLog} (takes : Run.next defaultPort before = (.ok entry, taken))
      (handles : handle entry taken = (outcome, middle)) (rest : Handles handle middle log after) :
      Handles handle before ((entry, outcome) :: log) after

/-- How a port with some entries is drained: a failure is skipped under the policy or else ends the
draining. -/
inductive Drained (policy : Settings.EntryPolicy) :
    List Entry → HandlingLog → Outcome Unit → Prop where
  | nil : Drained policy [] [] (.ok ())
  | goesOn (entry : Entry) {first outcome : Outcome Unit} {entries : List Entry} {log : HandlingLog}
      (skipped : ∀ failure, first = .error failure → Run.skips policy failure = true)
      (rest : Drained policy entries log outcome) :
      Drained policy (entry :: entries) ((entry, first) :: log) outcome
  | stops (entry : Entry) (entries : List Entry) {failure : Failure}
      (fatal : Run.skips policy failure = false) :
      Drained policy (entry :: entries) [(entry, .error failure)] (.error failure)

variable {policy : Settings.EntryPolicy} {handle : Entry → Run Unit}

theorem drained_ok_iff {entries : List Entry} {log : HandlingLog} :
    Drained policy entries log (.ok ()) ↔
      log.entries = entries ∧ log.Failing (Run.skips policy) := by
  constructor
  · intro drained
    generalize succeeds : (Except.ok () : Outcome Unit) = outcome at drained
    induction drained with
    | nil => exact ⟨rfl, by simp [HandlingLog.Failing]⟩
    | goesOn entry skipped rest ih =>
        obtain ⟨whole, failing⟩ := ih succeeds
        exact ⟨congrArg _ whole, failing.cons skipped⟩
    | stops => cases succeeds
  · rintro ⟨whole, failing⟩
    induction log generalizing entries with
    | nil =>
        obtain rfl : [] = entries := whole
        exact .nil
    | cons handling rest ih =>
        obtain rfl : _ :: _ = entries := whole
        refine .goesOn _ (fun failure same => ?_) (ih rfl ?_)
        · exact failing handling.1 failure (by rw [← same]; exact List.mem_cons_self ..)
        · exact fun entry failure member => failing entry failure (List.mem_cons_of_mem _ member)

theorem Drained.of_error {entries : List Entry} {log : HandlingLog} {failure : Failure}
    (drained : Drained policy entries log (.error failure)) :
    ∃ earlier entry rest, log = earlier ++ [(entry, .error failure)] ∧
      entries = HandlingLog.entries earlier ++ entry :: rest ∧
      Run.skips policy failure = false := by
  generalize fails : (Except.error failure : Outcome Unit) = outcome at drained
  induction drained with
  | nil => cases fails
  | @goesOn entry first outcome entries log skipped rest ih =>
      obtain ⟨earlier, last, left, rfl, rfl, fatal⟩ := ih fails
      exact ⟨(entry, first) :: earlier, last, left, rfl, rfl, fatal⟩
  | stops entry entries fatal =>
      cases fails
      exact ⟨[], entry, entries, rfl, rfl, fatal⟩

/-- Two logs from one session begin with the same outcome and go on from one session. -/
theorem Handles.step_unique {before first second : Session} {entry other : Entry}
    {outcome outcome' : Outcome Unit} {log log' : HandlingLog}
    (one : Handles handle before ((entry, outcome) :: log) first)
    (two : Handles handle before ((other, outcome') :: log') second) :
    outcome' = outcome ∧
      ∃ middle, Handles handle middle log first ∧ Handles handle middle log' second := by
  cases one with | entry takes handled rest =>
  cases two with | entry takes' handled' rest' =>
  obtain ⟨sameEntry, rfl⟩ := Prod.mk.inj (takes.symm.trans takes')
  cases sameEntry
  obtain ⟨sameOutcome, rfl⟩ := Prod.mk.inj (handled.symm.trans handled')
  exact ⟨sameOutcome.symm, _, rest, rest'⟩

/-- From one session a port can be drained in one way. -/
theorem Drained.unique {entries : List Entry} {before first second : Session}
    {log other : HandlingLog} {outcome outcome' : Outcome Unit}
    (drained : Drained policy entries log outcome) (handles : Handles handle before log first)
    (drained' : Drained policy entries other outcome')
    (handles' : Handles handle before other second) : outcome' = outcome ∧ second = first := by
  induction drained generalizing before other with
  | nil =>
      cases drained'
      cases handles
      cases handles'
      exact ⟨rfl, rfl⟩
  | goesOn entry skipped rest ih =>
      cases drained' with
      | goesOn _ skipped' rest' =>
          obtain ⟨_, middle, handlesRest, handlesRest'⟩ := handles.step_unique handles'
          exact ih handlesRest rest' handlesRest'
      | stops _ _ fatal =>
          obtain ⟨same, _⟩ := handles.step_unique handles'
          rw [skipped _ same.symm] at fatal
          cases fatal
  | stops entry entries fatal =>
      cases drained' with
      | goesOn _ skipped' _ =>
          obtain ⟨same, _⟩ := handles.step_unique handles'
          rw [skipped' _ same] at fatal
          cases fatal
      | stops =>
          obtain ⟨same, middle, handlesRest, handlesRest'⟩ := handles.step_unique handles'
          cases handlesRest
          cases handlesRest'
          exact ⟨same, rfl⟩

/-! ## A port on memory -/

theorem Run.lookup_setPort (session : Session) (input : InputPort) :
    (setPort defaultPort input session).inputs.lookup defaultPort = some input := by
  simp [setPort, lookup_setPair]

namespace Session

theorem waiting_of_held {session : Session} {port : String} {entries : List Entry} {isOpen : Bool}
    (held : session.inputs.lookup port = some ⟨entries, isOpen⟩) :
    session.waiting port = entries := by
  rw [waiting, held]
  rfl

structure Offers (entries : List Entry) (session : Session) : Prop where
  memory : session.plan = .none
  waiting : session.inputs.lookup defaultPort = some ⟨entries, true⟩

theorem Offers.next {entry : Entry} {rest : List Entry} {session : Session}
    (offers : Offers (entry :: rest) session) :
    ∃ taken, Run.next defaultPort session = (.ok entry, taken) ∧ Offers rest taken ∧
      session.Alike taken := by
  refine ⟨Run.noted (.next defaultPort) true (Run.setPort defaultPort ⟨rest, true⟩ session),
    ?_, ⟨?_, ?_⟩, ?_⟩
  · rw [Run.next, Run.call_memory offers.memory, offers.waiting]
  · exact offers.memory
  · exact Run.lookup_setPort session _
  · exact ⟨rfl, rfl, rfl, offers.memory, offers.memory⟩

theorem Offers.after {entries : List Entry} {before after : Session} {outcome : Outcome Unit}
    (offers : Offers entries before) {action : Run Unit} (aside : action.Aside)
    (result : action before = (outcome, after)) : Offers entries after := by
  obtain ⟨memory, inputs⟩ := aside.memory offers.memory result
  exact ⟨memory, by rw [inputs, offers.waiting]⟩

end Session

namespace Run

theorem hasNext_waiting {entries : List Entry} {session : Session}
    (waiting : session.inputs.lookup defaultPort = some ⟨entries, true⟩) :
    hasNext defaultPort session = (.ok !entries.isEmpty, session) := by
  rw [hasNext_apply, waiting]
  rfl

/-! ### One round

Of the entries that wait, the first cannot be taken, or its handling passes, or fails fatally. -/

def DrainCounts.including (counts : DrainCounts) (outcome : Outcome Unit) : DrainCounts :=
  ⟨counts.entries + 1, if outcome.isOk then counts.skipped else counts.skipped + 1⟩

theorem passes_or_breaks (policy : Settings.EntryPolicy) (outcome : Outcome Unit) :
    (∀ failure, outcome = .error failure → skips policy failure = true) ∨
    ∃ failure, outcome = .error failure ∧ skips policy failure = false := by
  cases outcome with
  | ok value => exact .inl nofun
  | error failure =>
      cases skipped : skips policy failure with
      | true => exact .inl fun other same => Except.error.inj same ▸ skipped
      | false => exact .inr ⟨failure, rfl, skipped⟩

section Round

variable {entry : Entry} {rest : List Entry} {session taken middle : Session} {failure : Failure}
  (waiting : session.inputs.lookup defaultPort = some ⟨entry :: rest, true⟩)

include waiting

theorem drainEntries_of_refused
    (refuses : next defaultPort session = (.error failure, middle)) (most : Nat)
    (counts : DrainCounts) :
    drainEntries policy handle (most + 1) counts session = (.error failure, middle) := by
  rw [drainEntries, bind_of_ok (hasNext_waiting waiting)]
  exact bind_of_error refuses

variable (takes : next defaultPort session = (.ok entry, taken))

include takes

theorem drainEntries_of_taken (most : Nat) (counts : DrainCounts) :
    drainEntries policy handle (most + 1) counts session =
      (attempt (handle entry) >>= fun outcome =>
        match outcome with
        | .ok () => drainEntries policy handle most ⟨counts.entries + 1, counts.skipped⟩
        | .error failure =>
          if skips policy failure then
            drainEntries policy handle most ⟨counts.entries + 1, counts.skipped + 1⟩
          else fail failure) taken := by
  rw [drainEntries, bind_of_ok (hasNext_waiting waiting)]
  exact bind_of_ok takes

theorem drainEntries_of_passed {outcome : Outcome Unit}
    (handled : handle entry taken = (outcome, middle))
    (passes : ∀ failure, outcome = .error failure → skips policy failure = true) (most : Nat)
    (counts : DrainCounts) :
    drainEntries policy handle (most + 1) counts session =
      drainEntries policy handle most (counts.including outcome) middle := by
  rw [drainEntries_of_taken waiting takes, attempt_bind, handled]
  cases outcome with
  | ok value => rfl
  | error failure => exact congrFun (if_pos (passes failure rfl)) middle

theorem drainEntries_of_fatal (fails : handle entry taken = (.error failure, middle))
    (fatal : skips policy failure = false) (most : Nat) (counts : DrainCounts) :
    drainEntries policy handle (most + 1) counts session = (.error failure, middle) := by
  rw [drainEntries_of_taken waiting takes, attempt_bind, fails]
  dsimp only
  rw [fatal]
  rfl

end Round

theorem drainEntries_memory (aside : ∀ entry, Aside (handle entry)) {entries : List Entry}
    {before : Session} (offers : before.Offers entries) (counts : DrainCounts) :
    ∃ log outcome after, Handles handle before log after ∧ Drained policy entries log outcome ∧
      (drainEntries policy handle entries.length counts before).1.map (fun _ => ()) = outcome ∧
      (drainEntries policy handle entries.length counts before).2 = after := by
  induction entries generalizing before counts with
  | nil => exact ⟨[], .ok (), before, .done before, .nil, rfl, rfl⟩
  | cons entry rest ih =>
      obtain ⟨taken, takes, offersRest, _⟩ := offers.next
      rcases handled : handle entry taken with ⟨outcome, middle⟩
      have offersMiddle := offersRest.after (aside entry) handled
      rcases passes_or_breaks policy outcome with passes | ⟨failure, rfl, fatal⟩
      · obtain ⟨log, result, after, handles, drained, sameResult, sameEnd⟩ :=
          ih offersMiddle (counts.including outcome)
        rw [List.length_cons, drainEntries_of_passed offers.waiting takes handled passes]
        exact ⟨_, _, _, .entry takes handled handles, .goesOn entry passes drained, sameResult,
          sameEnd⟩
      · rw [List.length_cons, drainEntries_of_fatal offers.waiting takes handled fatal]
        exact ⟨_, _, _, .entry takes handled (.done middle), .stops entry rest fatal, rfl, rfl⟩

def openDefault : Run Unit := do
  findInput defaultPort
  openInput defaultPort

/-- The default port is there, so that only the plan can keep it from being opened. -/
theorem openDefault_cases {entries : List Entry} {session : Session} {isOpen : Bool}
    (waiting : session.inputs.lookup defaultPort = some ⟨entries, isOpen⟩) :
    let found := noted (.findInput defaultPort) true session
    (∃ failure, session.plan.ofPort session.journal (.findInput defaultPort) = some failure ∧
      openDefault session = (.error failure, noted (.findInput defaultPort) false session)) ∨
    (∃ failure, session.plan.ofPort found.journal (.openInput defaultPort) = some failure ∧
      openDefault session = (.error failure, noted (.openInput defaultPort) false found)) ∨
    openDefault session = (.ok (),
      noted (.openInput defaultPort) true (setPort defaultPort ⟨entries, true⟩ found)) := by
  intro found
  cases finding : session.plan.ofPort session.journal (.findInput defaultPort) with
  | some failure => exact .inl ⟨failure, rfl, bind_of_error (call_planned finding)⟩
  | none =>
      have finds : findInput defaultPort session = (.ok (), found) := by
        rw [findInput, call_unplanned finding, waiting]
      have opens : openDefault session = openInput defaultPort found := bind_of_ok finds
      rw [opens]
      cases opening : session.plan.ofPort found.journal (.openInput defaultPort) with
      | some failure => exact .inr (.inl ⟨failure, rfl, call_planned opening⟩)
      | none =>
          have waitingToo : found.inputs.lookup defaultPort = some ⟨entries, isOpen⟩ := waiting
          rw [openInput, call_unplanned opening, waitingToo]
          exact .inr (.inr rfl)

theorem openDefault_memory {entries : List Entry} {before : Session} {isOpen : Bool}
    (memory : before.plan = .none)
    (waiting : before.inputs.lookup defaultPort = some ⟨entries, isOpen⟩) :
    ∃ opened, openDefault before = (.ok (), opened) ∧ opened.Offers entries ∧
      before.Alike opened := by
  rcases openDefault_cases waiting with ⟨_, planned, _⟩ | ⟨_, planned, _⟩ | opens
  · rw [memory] at planned
    cases planned
  · rw [memory] at planned
    cases planned
  · exact ⟨_, opens, ⟨memory, lookup_setPort _ _⟩, rfl, rfl, rfl, memory, memory⟩

theorem drain_eq (policy : Settings.EntryPolicy) (handle : Entry → Run Unit) :
    drain policy handle = (openDefault >>= fun _ => current >>= fun session =>
      drainEntries policy handle (session.waiting defaultPort).length ⟨0, 0⟩) := by
  rw [openDefault, bind_assoc]
  rfl

theorem drain_of_opened {entries : List Entry} {before opened : Session}
    (opens : openDefault before = (.ok (), opened))
    (waiting : opened.inputs.lookup defaultPort = some ⟨entries, true⟩)
    (policy : Settings.EntryPolicy) (handle : Entry → Run Unit) :
    drain policy handle before = drainEntries policy handle entries.length ⟨0, 0⟩ opened := by
  rw [drain_eq, bind_of_ok opens, current_bind, Session.waiting_of_held waiting]

end Run

/-! ## Leaving failing entries out -/

namespace Run

/-- On memory, a failure that concerns one entry leaves no trace. -/
def Traceless (action : Run Unit) : Prop :=
  ∀ before after failure, before.plan = .none → action before = (.error failure, after) →
    failure.isEntryScoped = true → before.Alike after

theorem next_alike {before taken : Session} {entry : Entry} (memory : before.plan = .none)
    (takes : next defaultPort before = (.ok entry, taken)) : before.Alike taken := by
  rw [next, call_memory memory] at takes
  split at takes
  · cases takes
  · next result =>
      split at result
      · cases result
      · cases result
      · cases result
      · cases result
        cases takes
        exact ⟨rfl, rfl, rfl, memory, memory⟩

end Run

/-- The log without the entries that have failed is a log of its own, and it ends alike. -/
theorem Handles.succeeded {before after : Session} {log : HandlingLog}
    (handles : Handles handle before log after) (aside : ∀ entry, (handle entry).Aside)
    (traceless : ∀ entry, (handle entry).Traceless) (mild : log.Failing Failure.isEntryScoped)
    {other : Session} (alike : before.Alike other) (offers : other.Offers log.succeeded.entries) :
    ∃ last, Handles handle other log.succeeded last ∧ after.Alike last := by
  induction handles generalizing other with
  | done session => exact ⟨other, .done other, alike⟩
  | @entry before taken middle after entry outcome log takes handled rest ih =>
      have alikeTaken := Run.next_alike alike.memory takes
      have mildRest : log.Failing Failure.isEntryScoped :=
        fun entry failure member => mild entry failure (List.mem_cons_of_mem _ member)
      cases outcome with
      | ok value =>
          obtain ⟨otherTaken, otherTakes, offersRest, alikeOther⟩ := offers.next
          have same := aside entry taken otherTaken
            (alikeTaken.symm.trans (alike.trans alikeOther))
          rcases otherHandled : handle entry otherTaken with ⟨otherOutcome, otherMiddle⟩
          rw [handled, otherHandled] at same
          obtain ⟨rfl, alikeMiddle, _⟩ := same
          obtain ⟨last, handlesRest, alikeLast⟩ :=
            ih mildRest alikeMiddle (offersRest.after (aside entry) otherHandled)
          exact ⟨last, .entry otherTakes otherHandled handlesRest, alikeLast⟩
      | error failure =>
          have concerns := mild entry failure (List.mem_cons_self ..)
          have unchanged := traceless entry taken middle failure alikeTaken.other handled concerns
          exact ih mildRest (unchanged.symm.trans (alikeTaken.symm.trans alike)) offers

end Sluice
