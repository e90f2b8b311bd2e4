import Sluice.Proofs.Derivation
import Sluice.Proofs.Flow.Output
import Sluice.Proofs.Steady

/-!
# Rules assign in order

Rules are applied to a record one after the other, each to what the ones before have left of it.
What comes of that is described field by field, both where all rules succeed and where one fails,
and a run puts out just the records on which all rules have succeeded.
-/

set_option autoImplicit false

namespace Sluice

open Run

/-! ## One rule after the other -/

namespace DeriveRule

def assign (record : Record) (rule : DeriveRule) : Outcome Record :=
  (rule.value record).map (record.set rule.field)

def assignAll (rules : List DeriveRule) (record : Record) : Outcome Record :=
  rules.foldlM assign record

variable {rule : DeriveRule} {rules before after : List DeriveRule} {record middle final : Record}

theorem assign_eq_ok : assign record rule = .ok final ↔
    ∃ value, rule.value record = .ok value ∧ record.set rule.field value = final :=
  Outcome.map_eq_ok

theorem assignAll_cons : assignAll (rule :: rules) record = .ok final ↔
    ∃ middle, assign record rule = .ok middle ∧ assignAll rules middle = .ok final := by
  rw [assignAll, List.foldlM_cons, Outcome.bind_eq_ok]
  rfl

theorem assignAll_append : assignAll (before ++ after) record = .ok final ↔
    ∃ middle, assignAll before record = .ok middle ∧ assignAll after middle = .ok final := by
  rw [assignAll, List.foldlM_append, Outcome.bind_eq_ok]
  rfl

/-- A rule fails as its expression does. -/
theorem value_eq_error {failure : Failure} (fails : rule.value record = .error failure) :
    ∃ fault, failure = .script rule.expression fault := by
  rw [value, Script.outcomeOf] at fails
  split at fails
  · exact ⟨_, (Except.error.inj fails).symm⟩
  · split at fails
    · cases fails
    · exact ⟨_, (Except.error.inj fails).symm⟩

end DeriveRule

open DeriveRule

theorem assignAll_eq (rules : List DeriveRule) (record : Record) :
    assignAll rules record =
      (deriveAll rules record).1.map fun _ => (deriveAll rules record).2 := by
  induction rules generalizing record with
  | nil => rfl
  | cons rule rest ih =>
      rw [assignAll, List.foldlM_cons, assign, deriveAll]
      cases rule.value record with
      | error failure => rfl
      | ok value => exact ih (record.set rule.field value)

theorem deriveAll_eq_ok {rules : List DeriveRule} {record final : Record} :
    deriveAll rules record = (.ok (), final) ↔ assignAll rules record = .ok final := by
  rw [assignAll_eq]
  rcases deriveAll rules record with ⟨_ | ⟨⟩, last⟩ <;> simp [Except.map]

theorem deriveAll_eq_error {rules : List DeriveRule} {record left : Record} {failure : Failure} :
    deriveAll rules record = (.error failure, left) ↔ ∃ before rule after,
      rules = before ++ rule :: after ∧ assignAll before record = .ok left ∧
        rule.value left = .error failure := by
  constructor
  · intro fails
    induction rules generalizing record with
    | nil => cases fails
    | cons first rest ih =>
        rw [deriveAll] at fails
        cases computed : first.value record with
        | error failure =>
            rw [computed] at fails
            cases fails
            exact ⟨[], first, rest, rfl, rfl, computed⟩
        | ok value =>
            rw [computed] at fails
            obtain ⟨before, rule, after, rfl, assigned, failed⟩ := ih fails
            refine ⟨first :: before, rule, after, rfl, assignAll_cons.2 ⟨_, ?_, assigned⟩, failed⟩
            exact assign_eq_ok.2 ⟨value, computed, rfl⟩
  · rintro ⟨before, rule, after, rfl, assigned, failed⟩
    rw [deriveAll_append, deriveAll_eq_ok.2 assigned]
    simp only [deriveAll, failed]

/-! ## Field by field -/

namespace DeriveRule

variable {rule : DeriveRule} {rules : List DeriveRule} {record final : Record}

theorem assignAll_frame (assigned : assignAll rules record = .ok final) {name : String}
    (other : name ∉ rules.map (·.field)) : final.get? name = record.get? name := by
  induction rules generalizing record with
  | nil =>
      obtain rfl := Except.ok.inj assigned
      rfl
  | cons rule rest ih =>
      obtain ⟨middle, first, assignedRest⟩ := assignAll_cons.1 assigned
      obtain ⟨value, _, rfl⟩ := assign_eq_ok.1 first
      rw [List.map_cons, List.mem_cons, not_or] at other
      obtain ⟨apart, otherRest⟩ := other
      rw [ih assignedRest otherRest, Record.get?_set, if_neg apart]

/-- The fields that a record has and others in front of those that it lacks. -/
theorem assignAll_names (assigned : assignAll rules record = .ok final) :
    final.names =
      record.names ++ ((rules.map (·.field)).filter (· ∉ record.names)).eraseDups := by
  induction rules generalizing record with
  | nil =>
      obtain rfl := Except.ok.inj assigned
      simp
  | cons rule rest ih =>
      obtain ⟨middle, first, assignedRest⟩ := assignAll_cons.1 assigned
      obtain ⟨value, _, rfl⟩ := assign_eq_ok.1 first
      rw [ih assignedRest, Record.names_set]
      by_cases known : rule.field ∈ record.names
      · simp [known]
      · have unseen : (rest.map (·.field)).filter (· ∉ record.names ++ [rule.field]) =
            ((rest.map (·.field)).filter (· ∉ record.names)).filter fun name =>
              !(name == rule.field) := by
          rw [List.filter_filter]
          refine List.filter_congr fun name _ => ?_
          by_cases same : name = rule.field <;> simp [same]
        rw [if_neg known, unseen, List.map_cons, List.filter_cons, if_pos (decide_eq_true known),
          List.eraseDups_cons, List.append_assoc]
        rfl

structure Assigned (rules : List DeriveRule) (record final : Record) : Prop where
  /-- No other field is touched. -/
  kept : ∀ name, name ∉ rules.map (·.field) → final.get? name = record.get? name
  /-- The fields that were there stand where they stood; the new ones follow, each where it was
  assigned first. -/
  order : final.names =
    record.names ++ ((rules.map (·.field)).filter (· ∉ record.names)).eraseDups
  /-- A field holds what the last of its rules has computed, from the record that the rules before
  that one have left. -/
  last : ∀ before rule after, rules = before ++ rule :: after → rule.field ∉ after.map (·.field) →
    ∃ middle value, assignAll before record = .ok middle ∧ rule.value middle = .ok value ∧
      final.get? rule.field = some value

theorem assigned_of_assignAll (assigned : assignAll rules record = .ok final) :
    Assigned rules record final where
  kept name other := assignAll_frame assigned other
  order := assignAll_names assigned
  last := by
    rintro before rule after rfl last
    obtain ⟨middle, assignedBefore, assignedRest⟩ := assignAll_append.1 assigned
    obtain ⟨next, first, assignedAfter⟩ := assignAll_cons.1 assignedRest
    obtain ⟨value, computed, rfl⟩ := assign_eq_ok.1 first
    refine ⟨middle, value, assignedBefore, computed, ?_⟩
    rw [assignAll_frame assignedAfter last, Record.get?_set, if_pos rfl]

end DeriveRule

/-! ## What a run puts out -/

def DeriveRule.derived (rules : List DeriveRule) (entry : Entry) : Outcome Record :=
  entry.asRecord >>= assignAll rules

/-- A record that is derived is put out, and of an entry without one nothing is. -/
theorem CompiledDerivation.handle_eq {rules : List DeriveRule} {derivation : CompiledDerivation}
    (compiles : DeriveRule.compile rules = .ok derivation) (entry : Entry) :
    derivation.handle entry = ofOutcome (derived rules entry) >>= writeRecord defaultPort := by
  rw [handle, derived]
  cases entry with
  | file file => rfl
  | record record =>
      rw [Entry.asRecord, Outcome.ok_bind, assignAll_eq, ← apply_eq compiles]
      funext session
      simp only [bind_apply, ofOutcome]
      rcases derivation.apply record with ⟨_ | _, _⟩ <;> rfl

/-- Where nothing is derived, the failure is one that concerns the entry. -/
theorem DeriveRule.derived_scoped {rules : List DeriveRule} {entry : Entry} {failure : Failure}
    (fails : derived rules entry = .error failure) : failure.isEntryScoped = true := by
  cases entry with
  | file file =>
      obtain rfl := Except.error.inj fails
      rfl
  | record record =>
      rw [derived, Entry.asRecord, Outcome.ok_bind, assignAll_eq] at fails
      rcases derives : deriveAll rules record with ⟨failed | _, left⟩
      · rw [derives] at fails
        obtain rfl := Except.error.inj fails
        obtain ⟨_, rule, _, _, _, broken⟩ := deriveAll_eq_error.1 derives
        obtain ⟨fault, rfl⟩ := value_eq_error broken
        rfl
      · rw [derives] at fails
        cases fails

/-- How the entries of a run are split: those that are handled, and then nothing more, or else,
unless failing entries are skipped, the first one that nothing is derived from. -/
structure DeriveRule.Splits (rules : List DeriveRule) (policy : Settings.EntryPolicy)
    (entries handled rest : List Entry) (outcome : Outcome Unit) : Prop where
  whole : entries = handled ++ rest
  strict : policy = .fail → ∀ entry ∈ handled, ∃ record, derived rules entry = .ok record
  ending : (rest = [] ∧ outcome = .ok ()) ∨
    policy = .fail ∧ ∃ entry more failure, rest = entry :: more ∧
      derived rules entry = .error failure ∧ outcome = .error failure

theorem DeriveRule.Splits.cons {rules : List DeriveRule} {policy : Settings.EntryPolicy}
    {entries handled rest : List Entry} {outcome : Outcome Unit}
    (splits : Splits rules policy entries handled rest outcome) {entry : Entry}
    (strict : policy = .fail → ∃ record, derived rules entry = .ok record) :
    Splits rules policy (entry :: entries) (entry :: handled) rest outcome where
  whole := congrArg _ splits.whole
  strict isStrict := List.forall_mem_cons.2 ⟨strict isStrict, splits.strict isStrict⟩
  ending := splits.ending

def DeriveRule.written (rules : List DeriveRule) (entries : List Entry) : List Record :=
  entries.filterMap fun entry => (derived rules entry).toOption

/-- On memory one entry adds the record that is derived from it to the output, or fails as its
derivation does and adds nothing. -/
theorem CompiledDerivation.handles_entry {rules : List DeriveRule}
    {derivation : CompiledDerivation} (compiles : DeriveRule.compile rules = .ok derivation)
    {entry : Entry} {before taken after : Session} {outcome : Outcome Unit}
    (memory : before.plan = .none) (isOpen : before.output.closes = 0)
    (takes : next defaultPort before = (.ok entry, taken))
    (handled : derivation.handle entry taken = (outcome, after)) :
    after.plan = .none ∧ after.output.closes = 0 ∧
      ((∃ record, derived rules entry = .ok record ∧ outcome = .ok () ∧
          ∀ {routed : List (Record × String)} {final : Output}, after.output.Gains routed final →
            before.output.Gains ((record, defaultPort) :: routed) final) ∨
        ∃ failure, derived rules entry = .error failure ∧ outcome = .error failure ∧
          after.output = before.output) := by
  have alike := next_alike memory takes
  have isOpenTaken : taken.output.closes = 0 := alike.output ▸ isOpen
  rw [handle_eq compiles] at handled
  cases derives : derived rules entry with
  | ok record =>
      rw [derives] at handled
      have writes : writeRecord defaultPort record taken = _ :=
        writeRecord_memory alike.other isOpenTaken
      obtain ⟨succeeds, rfl⟩ := Prod.mk.inj (writes.symm.trans handled)
      refine ⟨alike.other, isOpenTaken, .inl ⟨record, rfl, succeeds.symm, fun gains => ?_⟩⟩
      rw [alike.output]
      exact gains.cons
  | error failure =>
      rw [derives] at handled
      obtain ⟨fails, rfl⟩ := Prod.mk.inj handled
      exact ⟨alike.other, isOpenTaken, .inr ⟨failure, rfl, fails.symm, alike.output.symm⟩⟩

theorem CompiledDerivation.splits {rules : List DeriveRule} {derivation : CompiledDerivation}
    (compiles : DeriveRule.compile rules = .ok derivation) {policy : Settings.EntryPolicy}
    {entries : List Entry} {log : HandlingLog} {outcome : Outcome Unit}
    (drained : Drained policy entries log outcome) {before after : Session}
    (handles : Handles derivation.handle before log after) (memory : before.plan = .none)
    (isOpen : before.output.closes = 0) :
    ∃ handled rest, Splits rules policy entries handled rest outcome ∧
      before.output.Gains ((written rules handled).map fun record => (record, defaultPort))
        after.output := by
  induction drained generalizing before with
  | nil =>
      cases handles
      exact ⟨[], [], ⟨rfl, fun _ => nofun, .inl ⟨rfl, rfl⟩⟩, .nothing _⟩
  | @goesOn entry first outcome entries log skipped drainedRest ih =>
      cases handles with | entry takes handled handlesRest =>
      obtain ⟨memoryNext, isOpenNext, step⟩ :=
        derivation.handles_entry compiles memory isOpen takes handled
      obtain ⟨others, rest, splits, gains⟩ := ih handlesRest memoryNext isOpenNext
      obtain ⟨record, derives, _, adds⟩ | ⟨failure, derives, fails, same⟩ := step
      · refine ⟨entry :: others, rest, splits.cons fun _ => ⟨record, derives⟩, ?_⟩
        rw [written, List.filterMap_cons, derives]
        exact adds gains
      · refine ⟨entry :: others, rest, splits.cons ?_, ?_⟩
        · rintro rfl
          cases skipped failure fails
        · rw [written, List.filterMap_cons, derives, ← same]
          exact gains
  | @stops entry entries failure fatal =>
      cases handles with | entry takes handled handlesRest =>
      cases handlesRest
      obtain ⟨_, _, step⟩ := derivation.handles_entry compiles memory isOpen takes handled
      obtain ⟨record, _, succeeds, _⟩ | ⟨found, derives, fails, same⟩ := step
      · cases succeeds
      · obtain rfl := Except.error.inj fails
        have isStrict : policy = .fail := by
          cases policy with
          | fail => rfl
          | skip =>
              rw [skips, derived_scoped derives] at fatal
              cases fatal
        refine ⟨[], entry :: entries, ⟨rfl, fun _ => nofun, .inr ⟨isStrict, ?_⟩⟩, ?_⟩
        · exact ⟨entry, entries, failure, rfl, derives, rfl⟩
        · rw [same]
          exact .nothing _

theorem transformRecords_writes {rules : List DeriveRule} {derivation : CompiledDerivation}
    (compiles : DeriveRule.compile rules = .ok derivation) {settings : Settings}
    {policy : Settings.EntryPolicy} (read : DeriveRule.ofSettings settings = .ok rules)
    (policed : settings.entryPolicy = .ok policy) (entries : List Entry) (disk : Disk) :
    let (outcome, final) := transformRecords.execute settings (.onMemory entries disk)
    ∃ handled rest, Splits rules policy entries handled rest outcome ∧
      final.output.records defaultPort = written rules handled ∧
        final.output.recordCount = (written rules handled).length := by
  have settled : transformRecords.settle settings = .ok (.handling policy derivation.handle) :=
    DeriveRule.settle_eq_ok.2 ⟨rules, policy, derivation, read, policed, compiles, rfl⟩
  have steady := (HandlesAlone.byRules derivation).steady policy
  obtain ⟨led, opened, log, outcome, after, runs⟩ := steady.runs entries disk
  obtain ⟨begins, ends⟩ := runs.handling_output
  obtain ⟨handled, rest, splits, gains⟩ :=
    derivation.splits compiles runs.drained runs.handles runs.offers.memory (by rw [begins]; rfl)
  rw [begins] at gains
  dsimp only
  rw [BuiltinFunction.execute, settled, runs.outcome_eq, ends]
  refine ⟨handled, rest, splits, gains.onPort, gains.count.trans ?_⟩
  rw [List.length_map]
  exact Nat.zero_add _

/-- Rules that are compiled are applied in order, each to the record that the ones before have left,
until one of them fails, and what has been assigned by then is described field by field.  An entry
that no record is derived from leaves everything as it was; a run on memory puts out the records
that are derived from the entries it handles, in order, and no others. -/
theorem rules_assign_in_order {rules : List DeriveRule} {derivation : CompiledDerivation}
    (compiles : DeriveRule.compile rules = .ok derivation) :
    (∀ record final : Record, derivation.apply record = (.ok (), final) ↔
      assignAll rules record = .ok final) ∧
    (∀ (record left : Record) (failure : Failure),
      derivation.apply record = (.error failure, left) ↔ ∃ before rule after,
        rules = before ++ rule :: after ∧ assignAll before record = .ok left ∧
          rule.value left = .error failure ∧
            ∃ fault, failure = .script rule.expression fault) ∧
    (∀ (applied : List DeriveRule) (record final : Record),
      assignAll applied record = .ok final → Assigned applied record final) ∧
    (∀ (entry : Entry) (failure : Failure), derived rules entry = .error failure →
      ∀ session, derivation.handle entry session = (.error failure, session)) ∧
    ∀ (settings : Settings) (policy : Settings.EntryPolicy),
      DeriveRule.ofSettings settings = .ok rules → settings.entryPolicy = .ok policy →
        ∀ (entries : List Entry) (disk : Disk),
          let (outcome, final) := transformRecords.execute settings (.onMemory entries disk)
          ∃ handled rest, Splits rules policy entries handled rest outcome ∧
            final.output.records defaultPort = written rules handled ∧
              final.output.recordCount = (written rules handled).length := by
  refine ⟨fun record final => ?_, fun record left failure => ?_,
    fun _ _ _ assigned => assigned_of_assignAll assigned, fun entry failure fails session => ?_,
    fun settings policy read policed entries disk => ?_⟩
  · rw [apply_eq compiles, deriveAll_eq_ok]
  · rw [apply_eq compiles, deriveAll_eq_error]
    constructor
    · rintro ⟨before, rule, after, whole, assigned, failed⟩
      exact ⟨before, rule, after, whole, assigned, failed, value_eq_error failed⟩
    · rintro ⟨before, rule, after, whole, assigned, failed, _⟩
      exact ⟨before, rule, after, whole, assigned, failed⟩
  · rw [derivation.handle_eq compiles, fails]
    rfl
  · exact transformRecords_writes compiles read policed entries disk

/-- Rules that read what they assign and assign one field twice, and an entry that lacks what the
first of them reads. -/
theorem rules_assign_in_order_overwriting :
    let rule (expression field : String) : Json :=
      .object [("jsExpression", .text expression), ("outputField", .text field)]
    let settings : Settings := [("onEntryError", .text "skip"),
      ("rules", .list [rule "a + 1" "x", rule "x * 10" "a", rule "a + x" "x"])]
    let first := Record.ofPairs [("b", .int 3)]
    let second := Record.ofPairs [("a", .int 1), ("b", .int 2)]
    let entries : List Entry := [.record first, .record second]
    let ended := transformRecords.execute settings (.onMemory entries .empty)
    ended.1 = .ok () ∧ ended.2.output.records defaultPort =
      [.ofPairs [("a", .int 20), ("b", .int 2), ("x", .int 22)]] := by
  intro rule settings first second entries
  let rules : List DeriveRule := [⟨"a + 1", "x"⟩, ⟨"x * 10", "a"⟩, ⟨"a + x", "x"⟩]
  have each : ∀ rule ∈ rules, (Script.compile? rule.expression).isSome := by decide +kernel
  obtain ⟨derivation, compiles⟩ := DeriveRule.compile_ok each
  have derives : (derived rules (.record first)).toOption = none ∧
      (derived rules (.record second)).toOption =
        some (.ofPairs [("a", .int 20), ("b", .int 2), ("x", .int 22)]) := by decide +kernel
  obtain ⟨handled, rest, splits, records, _⟩ := (rules_assign_in_order compiles).2.2.2.2 settings
    .skip rfl rfl entries .empty
  obtain ⟨rfl, succeeds⟩ := splits.ending.resolve_right fun stops => nomatch stops.1
  obtain rfl : entries = handled := by simpa using splits.whole
  refine ⟨succeeds, records.trans ?_⟩
  simp only [written, entries, List.filterMap_cons, derives, List.filterMap_nil]

end Sluice
