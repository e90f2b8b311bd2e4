import Sluice.Proofs.Derivation
import Sluice.Proofs.Routing
import Sluice.Proofs.Script.Spelling

/-!
# Truth that is kept

A datum that becomes the value of a field and is read again is true just if it was true before.  A
condition, the call of `Boolean` on it, and a field that it was derived into therefore agree.
-/

set_option autoImplicit false

namespace Sluice

namespace Script

/-! ## Data that become fields -/

theorem truth_text {text : String} (notEmpty : text.toList ≠ []) :
    (Datum.text text).truth = true := by
  have nonempty : text.isEmpty = false := by
    rw [Bool.eq_false_iff]
    intro empty
    exact notEmpty (by rw [String.isEmpty_iff.1 empty]; rfl)
  rw [Datum.truth, nonempty]
  rfl

/-- What becomes a text without being one is true, and its text is not empty. -/
theorem Datum.truth_ofValue_toValue (datum : Datum) :
    (ofValue datum.toValue).truth = datum.truth := by
  cases datum with
  | unit => rfl
  | bool truth => rfl
  | int number => rfl
  | float number => rfl
  | text text => rfl
  | char c => exact truth_text (by simp)
  | list items => exact truth_text (by simp [spoken, quoted])
  | map entries => exact truth_text (by simp [spoken, quoted])
  | range first last closed =>
      refine truth_text ?_
      cases closed <;> simp [spoken, quoted, rangeText]

/-! ## The three expressions -/

theorem eval_boolean {env : Environment} {tree : Expr} {datum : Datum}
    (evaluates : tree.eval env = .ok datum) :
    (Expr.call "Boolean" [tree]).eval env = .ok (.bool datum.truth) := by
  have applied : invoke env "Boolean" [datum] = .ok (.bool datum.truth) := rfl
  rw [Expr.eval]
  split
  · simp [evalAll, evaluates, applied, bind, Except.bind]
  · simp [evalAll, evaluates, applied, bind, Except.bind]

theorem eval_reference (record : Record) (name : String) (value : Value) :
    (Expr.reference name).eval (recordEnvironment (record.set name value)) =
      .ok (.ofValue value) := by
  have found : (recordEnvironment (record.set name value)).find name = some (.ofValue value) := by
    show recordVariable (record.set name value) name = _
    rw [recordVariable, Record.get?_set, if_pos rfl]
  rw [Expr.eval, Environment.read, found]

/-! ## Testing and routing -/

/-- Whatever engine compiles the source, that engine and any that has compiled more find this truth
of the source on a record. -/
def TestsAs (source : String) (record : Record) (truth : Bool) : Prop :=
  ∀ (engine : Engine) (serial : Nat), engine.FreshFrom serial → ∃ handle larger,
    engine.compile serial source = .ok (handle, larger) ∧
      ∀ later : Engine, larger.Extends later → later.test handle record = .ok truth

theorem testsAs_of_eval {source : String} {tree : Expr} {record : Record} {datum : Datum}
    (compiled : compile? source = some tree)
    (evaluates : tree.eval (recordEnvironment record) = .ok datum) :
    TestsAs source record datum.truth := by
  intro engine serial fresh
  obtain ⟨handle, larger, compiles, later⟩ := Engine.evaluates_compiled compiled fresh
  refine ⟨handle, larger, compiles, fun engine wider => ?_⟩
  rw [Engine.test, later engine wider, outcomeOf, compiled]
  dsimp only
  rw [evaluates]
  rfl

/-- A source that is evaluated is compiled, and its tree has a datum that the value was made of. -/
theorem eval_of_valueOf {source : String} {engine larger : Engine} {serial : Nat} {handle : Handle}
    (fresh : engine.FreshFrom serial)
    (compiles : engine.compile serial source = .ok (handle, larger)) {record : Record}
    {value : Value} (evaluates : larger.valueOf handle record = .ok value) :
    ∃ tree datum, compile? source = some tree ∧
      tree.eval (recordEnvironment record) = .ok datum ∧ datum.toValue = value := by
  have keeps := (Engine.compile_spec fresh compiles).1
  rw [Engine.valueOf, keeps.evaluate] at evaluates
  obtain ⟨_, tree, compiled, _⟩ := keeps
  rw [outcomeOf, compiled] at evaluates
  obtain ⟨datum, outcome, rfl⟩ := Outcome.map_eq_ok.1 evaluates
  cases result : tree.eval (recordEnvironment record) with
  | error fault =>
      dsimp only at outcome
      rw [result] at outcome
      cases outcome
  | ok found =>
      dsimp only at outcome
      rw [result] at outcome
      obtain rfl := Except.ok.inj outcome
      exact ⟨tree, found, compiled, result, rfl⟩

end Script

open Script

theorem ConditionRouting.compile_ok {routing : ConditionRouting}
    (each : ∀ rule ∈ routing.rules, (compile? rule.condition).isSome) :
    ∃ compiled, routing.compile = .ok compiled := by
  have sources : ∀ source ∈ routing.rules.map (·.condition), (compile? source).isSome := by
    simpa using each
  obtain ⟨handles, engine, result⟩ := Engine.compileAll_ok sources .empty 0
  rw [compile, result]
  exact ⟨_, rfl⟩

/-- A router with one condition decides by its truth. -/
theorem ConditionRouting.portOfRecord_single {source : String} {tree : Expr} {record : Record}
    {datum : Datum} (compiled : compile? source = some tree)
    (evaluates : tree.eval (recordEnvironment record) = .ok datum) (default port : String) :
    ∃ routing, ConditionRouting.compile ⟨default, [⟨source, port⟩]⟩ = .ok routing ∧
      routing.portOfRecord record = .ok (if datum.truth then port else default) := by
  obtain ⟨routing, compiles⟩ : ∃ routing,
      ConditionRouting.compile ⟨default, [⟨source, port⟩]⟩ = .ok routing :=
    ConditionRouting.compile_ok (by simp [compiled])
  refine ⟨routing, compiles, ?_⟩
  have holds : ConditionRule.holds ⟨source, port⟩ record = .ok datum.truth := by
    simp only [ConditionRule.holds, compiled, evaluates]
  rw [ConditionRouting.portOfRecord_eq compiles, RouteTable.choose, ConditionRouting.table]
  simp only [List.map_cons, List.map_nil, RouteTable.firstTrue, holds, Outcome.ok_bind]
  cases datum.truth <;> rfl

/-- One rule sets its field to the value of its source. -/
theorem DeriveRule.apply_single {source : String} {tree : Expr} {record : Record} {datum : Datum}
    (compiled : compile? source = some tree)
    (evaluates : tree.eval (recordEnvironment record) = .ok datum) (name : String) :
    ∃ derivation, DeriveRule.compile [⟨source, name⟩] = .ok derivation ∧
      derivation.apply record = (.ok (), record.set name datum.toValue) := by
  obtain ⟨derivation, derives⟩ : ∃ derivation,
      DeriveRule.compile [⟨source, name⟩] = .ok derivation :=
    DeriveRule.compile_ok (by simp [compiled])
  have computed : DeriveRule.value ⟨source, name⟩ record = .ok datum.toValue := by
    simp only [DeriveRule.value, outcomeOf, compiled, evaluates, Except.map]
  refine ⟨derivation, derives, ?_⟩
  simp only [apply_eq derives, deriveAll, computed]

/-- Where a source is evaluated on a record, the source, the call of `Boolean` on it, and a variable
for a field that is set to its value are tested as the truth of that value.  A router by the source
therefore decides as one by the field does once the field is derived. -/
theorem condition_and_field_agree {source : String} {engine larger : Engine} {serial : Nat}
    {handle : Handle} (fresh : engine.FreshFrom serial)
    (compiles : engine.compile serial source = .ok (handle, larger)) {record : Record}
    {value : Value} (evaluates : larger.valueOf handle record = .ok value) :
    let truth := (Datum.ofValue value).truth
    TestsAs source record truth ∧
    (∀ (tree : Expr) (called : String), parse? (plainSource source.toList) = some tree →
      parse? (plainSource called.toList) = some (.call "Boolean" [tree]) →
        TestsAs called record truth) ∧
    ∀ name : String, isVariableName name = true →
      TestsAs name (record.set name value) truth ∧
      ∃ derivation, DeriveRule.compile [⟨source, name⟩] = .ok derivation ∧
        derivation.apply record = (.ok (), record.set name value) ∧
        ∀ default port : String, ∃ onSource onField,
          ConditionRouting.compile ⟨default, [⟨source, port⟩]⟩ = .ok onSource ∧
          ConditionRouting.compile ⟨default, [⟨name, port⟩]⟩ = .ok onField ∧
          onSource.portOfRecord record = .ok (if truth then port else default) ∧
          onField.portOfRecord (record.set name value) = .ok (if truth then port else default) := by
  intro truth
  obtain ⟨tree, datum, compiled, evaluated, rfl⟩ := eval_of_valueOf fresh compiles evaluates
  have same : truth = datum.truth := datum.truth_ofValue_toValue
  refine ⟨?_, fun syntaxTree called reads calls => ?_, fun name legal => ?_⟩
  · rw [same]
    exact testsAs_of_eval compiled evaluated
  · have folded : syntaxTree.fold = tree := by
      rw [compile?, compilePlain?, reads] at compiled
      exact Option.some.inj compiled
    have compiledCall : compile? called = some (.call "Boolean" [tree]) := by
      rw [compile?, compilePlain?, calls, ← folded]
      rfl
    rw [same]
    have tested := testsAs_of_eval compiledCall (eval_boolean evaluated)
    exact tested
  · have compiledName := compile?_name legal
    have reads := eval_reference record name datum.toValue
    refine ⟨testsAs_of_eval compiledName reads, ?_⟩
    obtain ⟨derivation, derives, applied⟩ := DeriveRule.apply_single compiled evaluated name
    refine ⟨derivation, derives, applied, fun default port => ?_⟩
    obtain ⟨onSource, sourceCompiles, bySource⟩ :=
      ConditionRouting.portOfRecord_single compiled evaluated default port
    obtain ⟨onField, fieldCompiles, byField⟩ :=
      ConditionRouting.portOfRecord_single compiledName reads default port
    rw [same]
    refine ⟨onSource, onField, sourceCompiles, fieldCompiles, bySource, ?_⟩
    rw [byField, Datum.truth_ofValue_toValue]

/-- The quotient of two zeros is not a number, and not true. -/
theorem condition_and_field_agree_not_a_number :
    let record := Record.ofPairs [("total", .int 0), ("count", .int 0)]
    let quotient := Value.float Binary64.nan
    TestsAs "total / count" record false ∧ TestsAs "Boolean(total / count)" record false ∧
      TestsAs "average" (record.set "average" quotient) false := by
  intro record quotient
  let tree : Expr := .binary .div (.reference "total") (.reference "count")
  have reads : parse? (plainSource "total / count".toList) = some tree := by with_unfolding_all rfl
  have calls : parse? (plainSource "Boolean(total / count)".toList) =
      some (.call "Boolean" [tree]) := by with_unfolding_all rfl
  have compiled : compile? "total / count" = some tree := by
    rw [compile?, compilePlain?, reads]
    rfl
  have fresh : Engine.empty.FreshFrom 0 := fun _ _ => rfl
  have compiles := Engine.compile_ok compiled .empty 0
  have computes : (outcomeOf "total / count" (recordEnvironment record)).map Datum.toValue =
      .ok quotient := by decide +kernel
  have keeps := (Engine.compile_spec fresh compiles).1
  rw [← keeps.evaluate] at computes
  obtain ⟨source, call, field⟩ := condition_and_field_agree fresh compiles computes
  have truth : (Datum.ofValue quotient).truth = false := by decide +kernel
  rw [truth] at source call field
  exact ⟨source, call tree _ reads calls, (field "average" (by decide +kernel)).1⟩

end Sluice
