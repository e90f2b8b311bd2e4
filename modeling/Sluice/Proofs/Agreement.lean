import Sluice.Proofs.Comparison
import Sluice.Proofs.Routing
import Sluice.Proofs.Skipping

/-!
# Routers that agree

Rules that compare fields with literals, given to the router by field as they stand and to the
router by condition as expressions, send each record that suits them to the same port.
-/

set_option autoImplicit false

namespace Sluice

open Run

namespace LiteralRule

/-! ## Settings with such rules -/

def fieldMembers (rule : LiteralRule) : Settings :=
  [("field", .text rule.field), ("op", .text rule.operator.ofRule.symbol),
    ("outputPort", .text rule.port), ("value", rule.literal.value.toJson)]

def conditionMembers (rule : LiteralRule) : Settings :=
  [("jsCondition", .text rule.condition), ("outputPort", .text rule.port)]

def settingsOf (members : LiteralRule → Settings) (default : String) (rules : List LiteralRule) :
    Settings :=
  [("defaultOutputPort", .text default),
    ("rules", .list (rules.map fun rule => .object (members rule)))]

/-- The rule as one by condition. -/
def scripted (rule : LiteralRule) : ConditionRule := ⟨rule.condition, rule.port⟩

def fieldRouting (default : String) (rules : List LiteralRule) : FieldRouting :=
  ⟨default, rules.map native⟩

def conditionRouting (default : String) (rules : List LiteralRule) : ConditionRouting :=
  ⟨default, rules.map scripted⟩

theorem readRule_fieldMembers (rule : LiteralRule) :
    FieldRouting.readRule rule.fieldMembers = .ok rule.native := by
  have plain : rule.literal.value.Plain := by
    cases rule.literal with
    | int n => exact .int n
    | text s => exact .text s
  have symbol : Operator.ofSymbol rule.operator.ofRule.symbol = .ok rule.operator.ofRule := by
    cases rule.operator <;> rfl
  have read : FieldRouting.readRule rule.fieldMembers = (do
      let operator ← Operator.ofSymbol rule.operator.ofRule.symbol
      let operand ← FieldRouting.readOperand rule.literal.value.toJson none
      (FieldRule.make rule.field operator operand rule.port).mapError
        FieldRouting.blameValue) := rfl
  rw [read, symbol, Outcome.ok_bind, FieldRouting.readOperand, Outcome.ok_bind, plain.ofJson_toJson,
    make_native]
  rfl

theorem readItems_fieldMembers (rules : List LiteralRule) (index : Nat) :
    Settings.readItems FieldRouting.rulesKey FieldRouting.readRule index
      (rules.map fun rule => .object rule.fieldMembers) = .ok (rules.map native) := by
  induction rules generalizing index with
  | nil => rfl
  | cons rule rest ih =>
      rw [List.map_cons, Settings.readItems, Settings.ofItem, Outcome.ok_bind,
        readRule_fieldMembers, ih]
      rfl

theorem readRules_conditionMembers (rules : List LiteralRule) (index : Nat) :
    ConditionRouting.readRules index (rules.map fun rule => .object rule.conditionMembers) =
      .ok (rules.map scripted) := by
  induction rules generalizing index with
  | nil => rfl
  | cons rule rest ih =>
      have read : ConditionRouting.readRules index
          ((rule :: rest).map fun rule => .object rule.conditionMembers) = (do
        let others ← ConditionRouting.readRules (index + 1)
          (rest.map fun rule => .object rule.conditionMembers)
        .ok (rule.scripted :: others)) := rfl
      rw [read, ih]
      rfl

theorem fieldRouting_read (default : String) (rules : List LiteralRule) :
    FieldRouting.ofSettings (settingsOf fieldMembers default rules) =
      .ok (fieldRouting default rules) := by
  have read : FieldRouting.ofSettings (settingsOf fieldMembers default rules) =
      (Settings.readItems FieldRouting.rulesKey FieldRouting.readRule 0
        (rules.map fun rule => .object rule.fieldMembers)).bind
          fun read => .ok ⟨default, read⟩ := rfl
  rw [read, readItems_fieldMembers]
  rfl

theorem conditionRouting_read (default : String) (rules : List LiteralRule) :
    ConditionRouting.ofSettings (settingsOf conditionMembers default rules) =
      .ok (conditionRouting default rules) := by
  have read : ConditionRouting.ofSettings (settingsOf conditionMembers default rules) =
      (ConditionRouting.readRules 0 (rules.map fun rule => .object rule.conditionMembers)).bind
        fun read => .ok ⟨default, read⟩ := rfl
  rw [read, readRules_conditionMembers]
  rfl

theorem conditionRouting_compiles (default : String) {rules : List LiteralRule}
    (statable : ∀ rule ∈ rules, rule.Statable) :
    ∃ compiled, (conditionRouting default rules).compile = .ok compiled := by
  have each : ∀ source ∈ (rules.map scripted).map (·.condition),
      (Script.compile? source).isSome := by
    intro source member
    rw [List.map_map] at member
    obtain ⟨rule, listed, rfl⟩ := List.mem_map.1 member
    exact Option.isSome_iff_exists.2 ⟨_, compile?_condition (statable rule listed)⟩
  obtain ⟨handles, larger, result⟩ := Script.Engine.compileAll_ok each .empty 0
  refine ⟨⟨default, larger, handles.zip ((rules.map scripted).map (·.port))⟩, ?_⟩
  rw [conditionRouting, ConditionRouting.compile, result]
  rfl

/-! ## The port of a record -/

/-- The port of the first rule that is true of the record, or the default port. -/
def portOf (default : String) (rules : List LiteralRule) (record : Record) : String :=
  ((rules.find? (·.truth record)).map (·.port)).getD default

theorem firstTrue_eq_portOf (default : String) {rules : List LiteralRule} {record : Record}
    {test : LiteralRule → Record → Outcome Bool}
    (tests : ∀ rule ∈ rules, test rule record = .ok (rule.truth record)) :
    RouteTable.firstTrue default record (rules.map fun rule => (test rule, rule.port)) =
      .ok (portOf default rules record) := by
  induction rules with
  | nil => rfl
  | cons rule rest ih =>
      rw [List.map_cons, RouteTable.firstTrue, tests rule (List.mem_cons_self ..), Outcome.ok_bind,
        ih fun other member => tests other (List.mem_cons_of_mem _ member), portOf, portOf,
        List.find?_cons]
      cases rule.truth record <;> rfl

variable {rules : List LiteralRule} {record : Record}

theorem scripted_holds {rule : LiteralRule} (statable : rule.Statable) (suits : rule.Suits record) :
    rule.scripted.holds record = .ok (rule.truth record) := by
  rw [ConditionRule.holds, scripted, compile?_condition statable]
  dsimp only
  rw [eval_tree suits]
  rfl

theorem field_chooses (default : String) (suits : ∀ rule ∈ rules, rule.Suits record) :
    (fieldRouting default rules).table.Chooses record (portOf default rules record) := by
  rw [← RouteTable.choose_eq_ok, RouteTable.choose, fieldRouting, FieldRouting.table, List.map_map]
  exact firstTrue_eq_portOf default fun rule member => native_holds (suits rule member)

theorem condition_chooses (default : String) (statable : ∀ rule ∈ rules, rule.Statable)
    (suits : ∀ rule ∈ rules, rule.Suits record) :
    (conditionRouting default rules).table.Chooses record (portOf default rules record) := by
  rw [← RouteTable.choose_eq_ok, RouteTable.choose, conditionRouting, ConditionRouting.table,
    List.map_map]
  exact firstTrue_eq_portOf default fun rule member =>
    scripted_holds (statable rule member) (suits rule member)

end LiteralRule

/-! ## The run of a router that refuses nothing -/

theorem RouteTable.Drives.writes {table : RouteTable} {handle : Entry → Run Unit}
    (drives : table.Drives handle) {record : Record} {port : String}
    (chooses : table.Chooses record port) : handle (.record record) = writeRecord port record := by
  rcases drives (.record record) with ⟨same, other, isSame, chosen, acts⟩ | ⟨failure, refuses, _⟩
  · cases isSame
    have ports := (RouteTable.choose_eq_ok.2 chosen).symm.trans (RouteTable.choose_eq_ok.2 chooses)
    obtain rfl := Except.ok.inj ports
    exact acts
  · exact absurd refuses (chooses.not_refused failure)

/-- All entries being records with a port, none is left over. -/
theorem RouteTable.Splits.all {table : RouteTable} {records : List Record} {port : Record → String}
    (chosen : ∀ record ∈ records, table.Chooses record (port record))
    {routed : List (Record × String)} {rest : List Entry} {outcome : Outcome Unit}
    (splits : table.Splits (records.map .record) routed rest outcome) :
    routed = records.map (fun record => (record, port record)) ∧ outcome = .ok () := by
  rcases splits.ending with ⟨rfl, succeeds⟩ | ⟨entry, more, failure, rfl, refuses, _⟩
  · refine ⟨?_, succeeds⟩
    have whole := splits.whole
    rw [List.append_nil] at whole
    have same : records = routed.map Prod.fst := by
      have injective : Function.Injective Entry.record := fun _ _ equal => Entry.record.inj equal
      refine List.map_injective_iff.2 injective ?_
      rw [whole, List.map_map]
      rfl
    subst same
    rw [List.map_map]
    refine (List.map_id _).symm.trans (List.map_congr_left fun pair member => ?_)
    have ports := (RouteTable.choose_eq_ok.2 (splits.chosen pair member)).symm.trans
      (RouteTable.choose_eq_ok.2 (chosen pair.1 (List.mem_map_of_mem member)))
    exact Prod.ext rfl (Except.ok.inj ports)
  · have listed : entry ∈ records.map Entry.record := by
      rw [splits.whole]
      simp
    obtain ⟨record, member, rfl⟩ := List.mem_map.1 listed
    exact absurd refuses ((chosen record member).not_refused failure)

structure SendsEach (records : List Record) (port : Record → String)
    (ended : Outcome Unit × Session) : Prop where
  succeeds : ended.1 = .ok ()
  sent : ∀ name, ended.2.output.records name = records.filter (port · = name)

theorem RouteTable.Drives.sendsEach {table : RouteTable} {handle : Entry → Run Unit}
    (drives : table.Drives handle) (alone : HandlesAlone handle) {records : List Record}
    {port : Record → String} (chosen : ∀ record ∈ records, table.Chooses record (port record))
    (policy : Settings.EntryPolicy) (disk : Disk) :
    SendsEach records port
      (perform (.ok (.handling policy handle)) (.onMemory (records.map .record) disk)) := by
  have steady : ∀ policy, ((Stage.handling .fail handle).under policy).Steady := alone.steady
  have strict : SendsEach records port
      (perform (.ok (.handling .fail handle)) (.onMemory (records.map .record) disk)) := by
    obtain ⟨led, opened, log, outcome, after, runs⟩ :=
      (alone.steady .fail).runs (records.map .record) disk
    obtain ⟨begins, ends⟩ := runs.handling_output
    obtain ⟨routed, rest, splits, gains⟩ :=
      drives.splits runs.drained runs.handles runs.offers.memory (by rw [begins]; rfl)
    rw [begins] at gains
    obtain ⟨rfl, rfl⟩ := splits.all chosen
    refine ⟨runs.outcome_eq, fun name => ?_⟩
    rw [ends]
    refine (gains.records name).trans ?_
    simp [List.filter_map, Function.comp_def, Output.records, Output.empty]
  cases policy with
  | fail => exact strict
  | skip =>
      -- Nothing fails, so that nothing is skipped.
      have same := Stage.Steady.perform_skip steady strict.succeeds
      exact same ▸ strict

/-! ## Agreement -/

/-- Rules that an expression can state come to the same in both routers.  Each rule, and its
condition compiled by any engine, are true or false alike of every record that suits the rule; both
routers write a record that suits all rules to the port of the first true one; and a run over such
records, under either policy, succeeds with all of them there. -/
theorem literal_rules_agree (default : String) (rules : List LiteralRule)
    (statable : ∀ rule ∈ rules, rule.Statable) :
    (∀ rule ∈ rules, ∀ record, rule.Suits record → ∀ (engine : Script.Engine) (serial : Nat),
      engine.FreshFrom serial → ∃ made handle larger truth,
        FieldRule.make rule.field rule.operator.ofRule (.literal rule.literal.value) rule.port =
          .ok made ∧
        engine.compile serial rule.condition = .ok (handle, larger) ∧
        made.holds record = .ok truth ∧ larger.test handle record = .ok truth) ∧
    ∀ policy : Settings.EntryPolicy,
      let port := LiteralRule.portOf default rules
      let native := (LiteralRule.settingsOf LiteralRule.fieldMembers default rules).under policy
      let scripted :=
        (LiteralRule.settingsOf LiteralRule.conditionMembers default rules).under policy
      (∃ nativeStage scriptedStage, routeByField.settle native = .ok nativeStage ∧
        routeByCondition.settle scripted = .ok scriptedStage ∧
          ∀ record, (∀ rule ∈ rules, rule.Suits record) →
            nativeStage.handle (.record record) = writeRecord (port record) record ∧
            scriptedStage.handle (.record record) = writeRecord (port record) record) ∧
      ∀ (records : List Record) (disk : Disk),
        (∀ record ∈ records, ∀ rule ∈ rules, rule.Suits record) →
          let session := Session.onMemory (records.map .record) disk
          SendsEach records port (routeByField.execute native session) ∧
            SendsEach records port (routeByCondition.execute scripted session) := by
  constructor
  · intro rule member record suits engine serial fresh
    have compiles := Script.Engine.compile_ok
      (LiteralRule.compile?_condition (statable rule member)) engine serial
    have keeps : Script.Engine.Keeps _ _ rule.scripted.condition :=
      (Script.Engine.compile_spec fresh compiles).1
    refine ⟨rule.native, _, _, rule.truth record, rule.make_native, compiles,
      LiteralRule.native_holds suits, ?_⟩
    rw [test_of_keeps keeps, LiteralRule.scripted_holds (statable rule member) suits]
  · intro policy port native scripted
    obtain ⟨compiled, compiles⟩ := LiteralRule.conditionRouting_compiles default statable
    have nativeSettles : routeByField.settle native =
        .ok (.handling policy (LiteralRule.fieldRouting default rules).handle) :=
      FieldRouting.settle_eq_ok.2 ⟨_, policy,
        (FieldRouting.ofSettings_under policy _).trans
          (LiteralRule.fieldRouting_read default rules),
        Settings.entryPolicy_under policy _, rfl⟩
    have scriptedSettles : routeByCondition.settle scripted =
        .ok (.handling policy compiled.handleRecord) :=
      ConditionRouting.settle_eq_ok.2 ⟨_, policy, compiled,
        (ConditionRouting.ofSettings_under policy _).trans
          (LiteralRule.conditionRouting_read default rules),
        Settings.entryPolicy_under policy _, compiles, rfl⟩
    have nativeDrives := (LiteralRule.fieldRouting default rules).drives
    have scriptedDrives := ConditionRouting.drives compiles
    refine ⟨⟨_, _, nativeSettles, scriptedSettles, fun record suits => ⟨?_, ?_⟩⟩, ?_⟩
    · exact nativeDrives.writes (LiteralRule.field_chooses default suits)
    · exact scriptedDrives.writes (LiteralRule.condition_chooses default statable suits)
    · intro records disk suits session
      rw [BuiltinFunction.execute, nativeSettles, BuiltinFunction.execute, scriptedSettles]
      constructor
      · exact nativeDrives.sendsEach (.byField _)
          (fun record member => LiteralRule.field_chooses default (suits record member)) policy disk
      · exact scriptedDrives.sendsEach (.byCondition _)
          (fun record member =>
            LiteralRule.condition_chooses default statable (suits record member)) policy disk

/-- A negative integer, and a text that an expression shows with backslashes. -/
theorem literal_rules_agree_quoted :
    let rules : List LiteralRule :=
      [⟨"n", .lt, .int (-5), "low"⟩, ⟨"s", .eq, .text "it's \"\\\"", "quoted"⟩]
    let low := Record.ofPairs [("n", .int (-7)), ("s", .text "")]
    let quoted := Record.ofPairs [("s", .text "it's \"\\\""), ("n", .int 3)]
    let session := Session.onMemory ([low, quoted, low].map .record) .empty
    rules.map LiteralRule.condition = ["n < -5", "s == 'it\\'s \"\\\\\"'"] ∧
      ([low, quoted].map (LiteralRule.portOf "rest" rules) = ["low", "quoted"]) ∧
      SendsEach [low, quoted, low] (LiteralRule.portOf "rest" rules) (routeByCondition.execute
        ((LiteralRule.settingsOf LiteralRule.conditionMembers "rest" rules).under .skip)
          session) := by
  intro rules low quoted session
  have statable : ∀ rule ∈ rules, rule.Statable := by
    intro rule member
    simp only [rules, List.mem_cons, List.not_mem_nil, or_false] at member
    rcases member with rfl | rfl
    · exact ⟨by decide, trivial⟩
    · exact ⟨by decide, by decide⟩
  have suits : ∀ record ∈ [low, quoted, low], ∀ rule ∈ rules, rule.Suits record := by
    intro record member rule listed
    simp only [rules, List.mem_cons, List.not_mem_nil, or_false] at member listed
    rcases member with rfl | rfl | rfl <;> rcases listed with rfl | rfl
    · exact ⟨_, rfl, .ints ..⟩
    · exact ⟨_, rfl, .texts ..⟩
    · exact ⟨_, rfl, .ints ..⟩
    · exact ⟨_, rfl, .texts ..⟩
    · exact ⟨_, rfl, .ints ..⟩
    · exact ⟨_, rfl, .texts ..⟩
  have agree := literal_rules_agree "rest" rules statable
  exact ⟨by decide, by decide, ((agree.2 .skip).2 [low, quoted, low] .empty suits).2⟩

end Sluice
