import Sluice.Proofs.Flow.Output
import Sluice.Proofs.Script.Engine
import Sluice.Proofs.Steady

/-!
# Routers partition their input

A record goes to the port of the first rule that is true of it, the rules being tried in declared
order.  The records before the first entry that cannot be routed come out unmodified and in order,
each on one port, and that entry decides the outcome of the run.
-/

set_option autoImplicit false

namespace Sluice

open Run

/-! ## The first true rule -/

structure RouteTable where
  defaultPort : String
  rules : List ((Record → Outcome Bool) × String)

namespace RouteTable

/-- The port is that of a true rule, all rules before it being false and those after it anything
whatever, or it is the default port and all rules are false. -/
def Chooses (table : RouteTable) (record : Record) (port : String) : Prop :=
  (∃ earlier test later, table.rules = earlier ++ (test, port) :: later ∧
    (∀ rule ∈ earlier, rule.1 record = .ok false) ∧ test record = .ok true) ∨
  ((∀ rule ∈ table.rules, rule.1 record = .ok false) ∧ port = table.defaultPort)

/-- A rule fails, all rules before it being false. -/
def Breaks (table : RouteTable) (record : Record) (failure : Failure) : Prop :=
  ∃ earlier rule later, table.rules = earlier ++ rule :: later ∧
    (∀ rule ∈ earlier, rule.1 record = .ok false) ∧ rule.1 record = .error failure

inductive Refuses (table : RouteTable) : Entry → Failure → Prop where
  | file (file : SourceFile) :
      Refuses table (.file file) (.typeMismatch "record" ("file '" ++ file.name ++ "'"))
  | fault {record : Record} {failure : Failure} (breaks : table.Breaks record failure) :
      Refuses table (.record record) failure

/-- The port that the rules choose, as it is found by trying them one after the other. -/
def firstTrue (default : String) (record : Record) :
    List ((Record → Outcome Bool) × String) → Outcome String
  | [] => .ok default
  | (test, port) :: rest => do
    if ← test record then .ok port else firstTrue default record rest

def choose (table : RouteTable) (record : Record) : Outcome String :=
  firstTrue table.defaultPort record table.rules

theorem Chooses.later {default port : String} {rules : List ((Record → Outcome Bool) × String)}
    {record : Record} (chooses : Chooses ⟨default, rules⟩ record port)
    {rule : (Record → Outcome Bool) × String} (isFalse : rule.1 record = .ok false) :
    Chooses ⟨default, rule :: rules⟩ record port := by
  rcases chooses with ⟨earlier, test, later, whole, falses, holds⟩ | ⟨falses, same⟩
  · refine .inl ⟨rule :: earlier, test, later, congrArg _ whole, ?_, holds⟩
    intro other member
    rcases List.mem_cons.1 member with rfl | member
    · exact isFalse
    · exact falses other member
  · refine .inr ⟨?_, same⟩
    intro other member
    rcases List.mem_cons.1 member with rfl | member
    · exact isFalse
    · exact falses other member

theorem firstTrue_spec (default : String) (record : Record)
    (rules : List ((Record → Outcome Bool) × String)) :
    match firstTrue default record rules with
    | .ok port => Chooses ⟨default, rules⟩ record port
    | .error failure => Breaks ⟨default, rules⟩ record failure := by
  induction rules with
  | nil => exact .inr ⟨by simp, rfl⟩
  | cons rule rest ih =>
      obtain ⟨test, port⟩ := rule
      rw [firstTrue]
      cases tested : test record with
      | error failure => exact ⟨[], (test, port), rest, rfl, by simp, tested⟩
      | ok holds =>
          rw [Outcome.ok_bind]
          cases holds with
          | true => exact .inl ⟨[], test, rest, rfl, by simp, tested⟩
          | false =>
              rw [if_neg Bool.false_ne_true]
              cases found : firstTrue default record rest with
              | ok other =>
                  rw [found] at ih
                  exact ih.later tested
              | error failure =>
                  rw [found] at ih
                  obtain ⟨earlier, broken, later, whole, falses, breaks⟩ := ih
                  refine ⟨(test, port) :: earlier, broken, later, congrArg _ whole, ?_, breaks⟩
                  intro other member
                  rcases List.mem_cons.1 member with rfl | member
                  · exact tested
                  · exact falses other member

theorem firstTrue_after_false (default : String) (record : Record)
    {earlier : List ((Record → Outcome Bool) × String)}
    (falses : ∀ rule ∈ earlier, rule.1 record = .ok false)
    (rest : List ((Record → Outcome Bool) × String)) :
    firstTrue default record (earlier ++ rest) = firstTrue default record rest := by
  induction earlier with
  | nil => rfl
  | cons rule others ih =>
      rw [List.cons_append, firstTrue, falses rule (List.mem_cons_self ..)]
      exact ih fun other member => falses other (List.mem_cons_of_mem _ member)

variable {table : RouteTable} {record : Record}

theorem choose_eq_ok {port : String} :
    table.choose record = .ok port ↔ table.Chooses record port := by
  constructor
  · intro found
    have spec := firstTrue_spec table.defaultPort record table.rules
    rw [choose] at found
    rw [found] at spec
    exact spec
  · rintro (⟨earlier, test, later, whole, falses, holds⟩ | ⟨falses, rfl⟩)
    · rw [choose, whole, firstTrue_after_false _ _ falses, firstTrue, holds]
      rfl
    · rw [choose, ← List.append_nil table.rules, firstTrue_after_false _ _ falses]
      rfl

theorem choose_eq_error {failure : Failure} :
    table.choose record = .error failure ↔ table.Breaks record failure := by
  constructor
  · intro found
    have spec := firstTrue_spec table.defaultPort record table.rules
    rw [choose] at found
    rw [found] at spec
    exact spec
  · rintro ⟨earlier, rule, later, whole, falses, breaks⟩
    rw [choose, whole, firstTrue_after_false _ _ falses, firstTrue, breaks]
    rfl

/-- A record that has a port is not one that cannot be routed. -/
theorem Chooses.not_refused {port : String} (chooses : table.Chooses record port)
    (failure : Failure) : ¬ table.Refuses (.record record) failure := by
  intro refuses
  cases refuses with
  | fault breaks => cases (choose_eq_ok.2 chooses).symm.trans (choose_eq_error.2 breaks)

end RouteTable

/-! ## The two routers -/

def FieldRouting.table (routing : FieldRouting) : RouteTable :=
  ⟨routing.defaultPort, routing.rules.map fun rule => (rule.holds, rule.port)⟩

def ConditionRule.holds (rule : ConditionRule) (record : Record) : Outcome Bool :=
  match Script.compile? rule.condition with
  | none => .error (.script rule.condition .malformed)
  | some tree =>
    match tree.eval (Script.recordEnvironment record) with
    | .ok value => .ok value.truth
    | .error fault => .error (.script rule.condition fault)

def ConditionRouting.table (routing : ConditionRouting) : RouteTable :=
  ⟨routing.defaultPort, routing.rules.map fun rule => (rule.holds, rule.port)⟩

inductive RecordRouter : BuiltinFunction → Settings → RouteTable → Prop where
  | byField {settings : Settings} {routing : FieldRouting}
      (read : FieldRouting.ofSettings settings = .ok routing) :
      RecordRouter routeByField settings routing.table
  | byCondition {settings : Settings} {routing : ConditionRouting} {compiled : CompiledRouting}
      (read : ConditionRouting.ofSettings settings = .ok routing)
      (compiles : routing.compile = .ok compiled) :
      RecordRouter routeByCondition settings routing.table

theorem FieldRouting.routePort_eq (routing : FieldRouting) (record : Record) :
    routePort routing.rules routing.defaultPort record = routing.table.choose record := by
  rw [RouteTable.choose, table]
  dsimp only
  induction routing.rules with
  | nil => rfl
  | cons rule rest ih =>
      rw [routePort, List.map_cons, RouteTable.firstTrue, ih]

theorem test_of_keeps {engine : Script.Engine} {handle : Script.Handle} {rule : ConditionRule}
    (keeps : engine.Keeps handle rule.condition) (record : Record) :
    engine.test handle record = rule.holds record := by
  obtain ⟨same, tree, compiles, found⟩ := keeps
  rw [Script.Engine.test, Script.Engine.evaluate, found, ConditionRule.holds, compiles, ← same]
  dsimp only
  cases tree.eval (Script.recordEnvironment record) <;> rfl

theorem firstPort_eq {engine : Script.Engine} (default : String) (record : Record)
    {handles : List Script.Handle} {rules : List ConditionRule}
    (keep : List.Forall₂ engine.Keeps handles (rules.map (·.condition))) :
    CompiledRouting.firstPort default (fun handle => engine.test handle record)
        (handles.zip (rules.map (·.port))) =
      RouteTable.firstTrue default record (rules.map fun rule => (rule.holds, rule.port)) := by
  induction rules generalizing handles with
  | nil =>
      rw [List.map_nil, List.forall₂_nil_right_iff] at keep
      rw [keep]
      rfl
  | cons rule rest ih =>
      obtain ⟨handle, others, keeps, keepsRest, rfl⟩ := List.forall₂_cons_right_iff.1 keep
      rw [List.map_cons, List.map_cons, List.zip_cons_cons, CompiledRouting.firstPort,
        RouteTable.firstTrue, test_of_keeps keeps, ih keepsRest]

theorem ConditionRouting.portOfRecord_eq {routing : ConditionRouting} {compiled : CompiledRouting}
    (compiles : routing.compile = .ok compiled) (record : Record) :
    compiled.portOfRecord record = routing.table.choose record := by
  rw [compile] at compiles
  rcases result : Script.Engine.empty.compileAll 0 (routing.rules.map (·.condition)) with
    ⟨outcome, engine⟩
  rw [result] at compiles
  cases outcome with
  | error failure => cases compiles
  | ok handles =>
      obtain rfl := Except.ok.inj compiles
      have fresh : Script.Engine.empty.FreshFrom 0 := fun _ _ => rfl
      exact firstPort_eq _ record (Script.Engine.compileAll_spec fresh result).1

/-- How a handler treats the entries of a router. -/
def RouteTable.Drives (table : RouteTable) (handle : Entry → Run Unit) : Prop :=
  ∀ entry, (∃ record port, entry = .record record ∧ table.Chooses record port ∧
      handle entry = writeRecord port record) ∨
    ∃ failure, table.Refuses entry failure ∧ handle entry = fail failure

theorem RouteTable.drives_of_choose {table : RouteTable} {handle : Entry → Run Unit}
    (acts : ∀ entry, handle entry = ofOutcome entry.asRecord >>= fun record =>
      ofOutcome (table.choose record) >>= fun port => writeRecord port record) :
    table.Drives handle := by
  intro entry
  rw [acts]
  cases entry with
  | file file => exact .inr ⟨_, .file file, rfl⟩
  | record record =>
      cases found : table.choose record with
      | ok port =>
          exact .inl ⟨record, port, rfl, choose_eq_ok.1 found, by simp [Entry.asRecord, found]⟩
      | error failure =>
          exact .inr ⟨failure, .fault (choose_eq_error.1 found), by simp [Entry.asRecord, found]⟩

theorem FieldRouting.drives (routing : FieldRouting) : routing.table.Drives routing.handle := by
  refine RouteTable.drives_of_choose fun entry => ?_
  simp only [handle, routePort_eq]

theorem ConditionRouting.drives {routing : ConditionRouting} {compiled : CompiledRouting}
    (compiles : routing.compile = .ok compiled) :
    routing.table.Drives compiled.handleRecord := by
  refine RouteTable.drives_of_choose fun entry => ?_
  simp only [CompiledRouting.handleRecord, portOfRecord_eq compiles]

theorem RecordRouter.settled {function : BuiltinFunction} {settings : Settings} {table : RouteTable}
    (router : RecordRouter function settings table) (strict : settings.entryPolicy = .ok .fail) :
    function ∈ builtinFunctions ∧ ∃ handle,
      function.settle settings = .ok (.handling .fail handle) ∧ table.Drives handle := by
  cases router with
  | @byField _ routing read =>
      exact ⟨by simp [builtinFunctions], routing.handle,
        FieldRouting.settle_eq_ok.2 ⟨routing, .fail, read, strict, rfl⟩, routing.drives⟩
  | @byCondition _ routing compiled read compiles =>
      exact ⟨by simp [builtinFunctions], compiled.handleRecord,
        ConditionRouting.settle_eq_ok.2 ⟨routing, .fail, compiled, read, strict, compiles, rfl⟩,
        ConditionRouting.drives compiles⟩

/-! ## The run of a router -/

/-- How a router splits its entries: some records with the ports chosen for them, and then nothing
more, or else an entry that cannot be routed and decides the outcome. -/
structure RouteTable.Splits (table : RouteTable) (entries : List Entry)
    (routed : List (Record × String)) (rest : List Entry) (outcome : Outcome Unit) : Prop where
  whole : entries = routed.map (fun pair => .record pair.1) ++ rest
  chosen : ∀ pair ∈ routed, table.Chooses pair.1 pair.2
  routable : ∀ pair ∈ routed, ∀ failure, ¬ table.Refuses (.record pair.1) failure
  ending : (rest = [] ∧ outcome = .ok ()) ∨
    ∃ entry more failure, rest = entry :: more ∧ table.Refuses entry failure ∧
      outcome = .error failure

theorem RouteTable.Splits.cons {table : RouteTable} {entries rest : List Entry}
    {routed : List (Record × String)} {outcome : Outcome Unit}
    (splits : table.Splits entries routed rest outcome) {record : Record} {port : String}
    (chooses : table.Chooses record port) :
    table.Splits (.record record :: entries) ((record, port) :: routed) rest outcome where
  whole := congrArg _ splits.whole
  chosen := by
    intro pair member
    rcases List.mem_cons.1 member with rfl | member
    · exact chooses
    · exact splits.chosen pair member
  routable := by
    intro pair member
    rcases List.mem_cons.1 member with rfl | member
    · exact chooses.not_refused
    · exact splits.routable pair member
  ending := splits.ending

theorem RouteTable.Drives.splits {table : RouteTable} {handle : Entry → Run Unit}
    (drives : table.Drives handle) {entries : List Entry} {log : HandlingLog}
    {outcome : Outcome Unit} (drained : Drained .fail entries log outcome)
    {before after : Session} (handles : Handles handle before log after)
    (memory : before.plan = .none) (isOpen : before.output.closes = 0) :
    ∃ routed rest, table.Splits entries routed rest outcome ∧
      before.output.Gains routed after.output := by
  induction drained generalizing before with
  | nil =>
      cases handles
      refine ⟨[], [], ⟨rfl, by simp, by simp, .inl ⟨rfl, rfl⟩⟩, rfl, rfl, ?_⟩
      simp
  | @goesOn entry first outcome entries log skipped drainedRest ih =>
      cases handles with | @entry _ taken middle _ _ _ _ takes handled handlesRest =>
      have alike := next_alike memory takes
      have isOpenTaken : taken.output.closes = 0 := alike.output ▸ isOpen
      rcases drives entry with ⟨record, port, rfl, chooses, acts⟩ | ⟨failure, _, acts⟩
      · rw [acts, writeRecord_memory alike.other isOpenTaken] at handled
        obtain ⟨_, rfl⟩ := Prod.mk.inj handled
        obtain ⟨routed, rest, splits, gains⟩ := ih handlesRest alike.other isOpenTaken
        refine ⟨(record, port) :: routed, rest, splits.cons chooses, ?_⟩
        rw [alike.output]
        exact gains.cons
      · -- Under this policy no failure is skipped.
        rw [acts] at handled
        obtain ⟨same, _⟩ := Prod.mk.inj handled
        cases skipped failure same.symm
  | @stops entry entries failure fatal =>
      cases handles with | @entry _ taken middle _ _ _ _ takes handled handlesRest =>
      cases handlesRest
      have alike := next_alike memory takes
      have isOpenTaken : taken.output.closes = 0 := alike.output ▸ isOpen
      rcases drives entry with ⟨record, port, rfl, _, acts⟩ | ⟨found, refuses, acts⟩
      · rw [acts, writeRecord_memory alike.other isOpenTaken] at handled
        cases (Prod.mk.inj handled).1
      · rw [acts] at handled
        obtain ⟨same, rfl⟩ := Prod.mk.inj handled
        obtain rfl := Except.error.inj same
        refine ⟨[], entry :: entries, ⟨rfl, by simp, by simp, .inr ?_⟩, ?_⟩
        · exact ⟨entry, entries, found, rfl, refuses, rfl⟩
        · rw [alike.output]
          exact ⟨rfl, rfl, by simp⟩

/-- The records before the first entry that cannot be routed, and no others, are put out: on each
port, in order, those for which it was chosen. -/
theorem router_partitions {function : BuiltinFunction} {settings : Settings} {table : RouteTable}
    (router : RecordRouter function settings table) (strict : settings.entryPolicy = .ok .fail)
    (entries : List Entry) (disk : Disk) :
    let (outcome, final) := function.execute settings (.onMemory entries disk)
    ∃ routed rest, table.Splits entries routed rest outcome ∧
      final.output.recordCount = routed.length ∧
      ∀ port, final.output.records port = (routed.filter (·.2 = port)).map Prod.fst := by
  obtain ⟨builtin, handle, settled, drives⟩ := router.settled strict
  have steady := (builtinStage_of_settle builtin settled).steady
  obtain ⟨led, opened, log, outcome, after, runs⟩ := steady.runs entries disk
  obtain ⟨begins, ends⟩ := runs.handling_output
  obtain ⟨routed, rest, splits, gains⟩ :=
    drives.splits runs.drained runs.handles runs.offers.memory (by rw [begins]; rfl)
  rw [begins] at gains
  dsimp only
  rw [BuiltinFunction.execute, settled, runs.outcome_eq, ends]
  exact ⟨routed, rest, splits, gains.count.trans (Nat.zero_add _), gains.records⟩

/-- Two rules share a port.  The second one would fail for the first record, but is not tried. -/
theorem router_partitions_shared_port :
    let rule (field value : String) : Json := .object [("field", .text field), ("op", .text "=="),
      ("value", .text value), ("outputPort", .text "both")]
    let settings : Settings :=
      [("defaultOutputPort", .text "rest"), ("rules", .list [rule "a" "1", rule "b" "2"])]
    let first := Record.ofPairs [("a", .text "1"), ("b", .null)]
    let second := Record.ofPairs [("a", .text "0"), ("b", .text "2")]
    let ended := routeByField.execute settings (.onMemory
      [.record first, .record second, .file (.ofBytes "c.txt" []), .record first] .empty)
    ended.1 = .error (.typeMismatch "record" "file 'c.txt'") ∧
      ∃ routed : List (Record × String), routed.length = 2 ∧
        (routed.filter (·.2 = "both")).map Prod.fst = [first, second] := by
  intro rule settings first second
  have router : RecordRouter routeByField settings _ := .byField rfl
  obtain ⟨routed, rest, _, count, records⟩ := router_partitions router rfl
    [.record first, .record second, .file (.ofBytes "c.txt" []), .record first] .empty
  exact ⟨rfl, routed, count.symm.trans rfl, (records "both").symm.trans rfl⟩

end Sluice
