import Mathlib.Data.List.Perm.Basic
import Sluice.Derivation
import Sluice.Proofs.Outcome
import Sluice.Proofs.Record
import Sluice.Proofs.Script.Engine
import Sluice.Proofs.Script.Footprint

/-!
# Rules that do not depend on each other

What a rule derives depends on the fields that its expression names.  Two rules of which neither
names the field of the other can change places: the record comes to hold the same.
-/

set_option autoImplicit false

namespace Sluice

/-! ## Variables of a record -/

theorem setSorted_comm_of_lt {α : Type} {first second : String} (below : first < second)
    (one two : α) (pairs : List (String × α)) :
    setSorted second two (setSorted first one pairs) =
      setSorted first one (setSorted second two pairs) := by
  have apart : first ≠ second := fun same => String.lt_irrefl _ (same ▸ below)
  have notAbove : ¬second < first := String.lt_asymm below
  induction pairs with
  | nil => simp [setSorted, apart, apart.symm, below, notAbove]
  | cons pair rest ih =>
      obtain ⟨key, old⟩ := pair
      by_cases hitFirst : key = first
      · subst hitFirst
        simp [setSorted, apart, notAbove]
      · by_cases before : first < key
        · by_cases hitSecond : key = second
          · subst hitSecond
            simp [setSorted, apart, apart.symm, below, notAbove]
          · by_cases between : second < key <;>
              simp [setSorted, apart, apart.symm, hitFirst, hitSecond, before, below, notAbove,
                between]
        · have notSecond : key ≠ second := fun same => before (same ▸ below)
          have after : ¬second < key := fun above => before (String.lt_trans below above)
          simp [setSorted, hitFirst, notSecond, before, after, ih]

theorem setSorted_comm {α : Type} {first second : String} (apart : first ≠ second) (one two : α)
    (pairs : List (String × α)) :
    setSorted second two (setSorted first one pairs) =
      setSorted first one (setSorted second two pairs) := by
  by_cases below : first < second
  · exact setSorted_comm_of_lt below one two pairs
  · have above : second < first := by
      refine Decidable.byContradiction fun not => apart ?_
      exact String.le_antisymm (String.not_lt.1 not) (String.not_lt.1 below)
    exact (setSorted_comm_of_lt above two one pairs).symm

namespace Script

/-- A map does not depend on the order of entries with different keys. -/
theorem Datum.ofEntries_perm {entries others : List (String × Datum)} (perm : entries.Perm others)
    (distinct : (entries.map Prod.fst).Nodup) : ofEntries entries = ofEntries others := by
  refine congrArg map (perm.foldl_eq' (fun one first two second sorted => ?_) [])
  by_cases same : one.1 = two.1
  · have equal : one = two := by
      have found := lookup_of_mem distinct second
      rw [← same, lookup_of_mem distinct first] at found
      exact Prod.ext same (Option.some.inj found)
    rw [equal]
  · exact setSorted_comm same one.2 two.2 sorted

theorem recordEnvironment_perm {record other : Record} (perm : record.fields.Perm other.fields) :
    recordEnvironment record = recordEnvironment other := by
  refine congrArg (environment · runMax) (funext fun name => ?_)
  have whole : Datum.ofEntries (record.fields.map fun field => (field.1, .ofValue field.2)) =
      Datum.ofEntries (other.fields.map fun field => (field.1, .ofValue field.2)) := by
    refine Datum.ofEntries_perm (perm.map _) ?_
    rw [List.map_map]
    exact record.distinct
  rw [recordVariable, recordVariable, Record.get?, Record.get?,
    lookup_perm perm record.distinct name, whole]

theorem recordVariable_named {record other : Record} {name : String} (noMap : name ≠ "data")
    (same : record.get? name = other.get? name) :
    recordVariable record name = recordVariable other name := by
  rw [recordVariable, recordVariable, same, if_neg noMap, if_neg noMap]

/-- A source asks for fields by their names: neither for the map of all of them nor for a function
that looks at the variables. -/
structure NamesFields (source : String) : Prop where
  noMap : .reads "data" ∉ mentionsOf source
  noLookup : .calls "is_def_var" ∉ mentionsOf source
  noRun : .calls "eval" ∉ mentionsOf source

/-- What such a source comes to depends on the fields that it names. -/
theorem NamesFields.outcomeOf_congr {source : String} (names : NamesFields source)
    {record other : Record}
    (same : ∀ name, .reads name ∈ mentionsOf source → record.get? name = other.get? name) :
    outcomeOf source (recordEnvironment record) = outcomeOf source (recordEnvironment other) := by
  rw [outcomeOf, outcomeOf]
  cases compiles : compile? source with
  | none => rfl
  | some tree =>
      have alike : SeeAlike (mentionsOf source) (recordEnvironment record)
          (recordEnvironment other) := by
        refine ⟨fun name member => ?_, names.noLookup, names.noRun⟩
        have noMap : name ≠ "data" := by
          rintro rfl
          exact names.noMap member
        exact recordVariable_named noMap (same name member)
      dsimp only
      rw [tree.eval_alike (alike.subset (mentions_compiled compiles))]

end Script

/-! ## Rules on their own -/

def DeriveRule.value (rule : DeriveRule) (record : Record) : Outcome Value :=
  (Script.outcomeOf rule.expression (Script.recordEnvironment record)).map Script.Datum.toValue

def deriveAll : List DeriveRule → Record → Outcome Unit × Record
  | [], record => (.ok (), record)
  | rule :: rest, record =>
    match rule.value record with
    | .ok value => deriveAll rest (record.set rule.field value)
    | .error failure => (.error failure, record)

theorem deriveWith_eq {engine : Script.Engine} {handles : List Script.Handle}
    {rules : List DeriveRule}
    (keep : List.Forall₂ engine.Keeps handles (rules.map (·.expression))) (record : Record) :
    deriveWith engine (handles.zip (rules.map (·.field))) record = deriveAll rules record := by
  induction rules generalizing handles record with
  | nil =>
      rw [List.map_nil, List.forall₂_nil_right_iff] at keep
      rw [keep]
      rfl
  | cons rule rest ih =>
      obtain ⟨handle, others, keeps, keepsRest, rfl⟩ := List.forall₂_cons_right_iff.1 keep
      rw [List.map_cons, List.zip_cons_cons, deriveWith, deriveAll, Script.Engine.valueOf,
        keeps.evaluate, ← DeriveRule.value]
      cases rule.value record with
      | error failure => rfl
      | ok value => exact ih keepsRest (record.set rule.field value)

theorem DeriveRule.compile_eq_ok {rules : List DeriveRule} {derivation : CompiledDerivation} :
    compile rules = .ok derivation ↔ ∃ handles engine,
      Script.Engine.empty.compileAll 0 (rules.map (·.expression)) = (.ok handles, engine) ∧
        derivation = ⟨engine, handles.zip (rules.map (·.field))⟩ := by
  rw [compile]
  rcases result : Script.Engine.empty.compileAll 0 (rules.map (·.expression)) with
    ⟨outcome, engine⟩
  simp only [result]
  cases outcome with
  | error failure => simp [bind, Except.bind]
  | ok handles =>
      rw [Outcome.ok_bind]
      constructor
      · rintro same
        exact ⟨handles, engine, rfl, (Except.ok.inj same).symm⟩
      · rintro ⟨_, _, same, rfl⟩
        cases same
        rfl

theorem apply_eq {rules : List DeriveRule} {derivation : CompiledDerivation}
    (compiles : DeriveRule.compile rules = .ok derivation) (record : Record) :
    derivation.apply record = deriveAll rules record := by
  obtain ⟨handles, engine, result, rfl⟩ := DeriveRule.compile_eq_ok.1 compiles
  have fresh : Script.Engine.empty.FreshFrom 0 := fun _ _ => rfl
  exact deriveWith_eq (Script.Engine.compileAll_spec fresh result).1 record

theorem DeriveRule.compile_ok {rules : List DeriveRule}
    (each : ∀ rule ∈ rules, (Script.compile? rule.expression).isSome) :
    ∃ derivation, compile rules = .ok derivation := by
  have sources : ∀ source ∈ rules.map (·.expression), (Script.compile? source).isSome := by
    simpa using each
  obtain ⟨handles, engine, result⟩ := Script.Engine.compileAll_ok sources .empty 0
  exact ⟨_, compile_eq_ok.2 ⟨handles, engine, result, rfl⟩⟩

/-- Whether rules can be compiled does not depend on their order. -/
theorem DeriveRule.compile_perm {rules others : List DeriveRule} (perm : rules.Perm others)
    {derivation : CompiledDerivation} (compiles : compile rules = .ok derivation) :
    ∃ reordered, compile others = .ok reordered := by
  obtain ⟨handles, engine, result, _⟩ := compile_eq_ok.1 compiles
  have each := Script.Engine.compileAll_each result
  refine compile_ok fun rule member => ?_
  exact each _ (List.mem_map_of_mem (perm.mem_iff.2 member))

/-! ## Two rules that change places -/

theorem DeriveRule.value_perm (rule : DeriveRule) {record other : Record}
    (perm : record.fields.Perm other.fields) : rule.value record = rule.value other := by
  rw [value, value, Script.recordEnvironment_perm perm]

/-- The order of the fields of a record matters for the order of those derived only. -/
theorem deriveAll_perm (rules : List DeriveRule) {record other : Record}
    (perm : record.fields.Perm other.fields) :
    (deriveAll rules record).1 = (deriveAll rules other).1 ∧
      (deriveAll rules record).2.fields.Perm (deriveAll rules other).2.fields := by
  induction rules generalizing record other with
  | nil => exact ⟨rfl, perm⟩
  | cons rule rest ih =>
      rw [deriveAll, deriveAll, rule.value_perm perm]
      cases rule.value other with
      | error failure => exact ⟨rfl, perm⟩
      | ok value => exact ih (setPair_perm perm record.distinct rule.field value)

theorem deriveAll_append (before after : List DeriveRule) (record : Record) :
    deriveAll (before ++ after) record =
      match deriveAll before record with
      | (.ok _, middle) => deriveAll after middle
      | (.error failure, last) => (.error failure, last) := by
  induction before generalizing record with
  | nil => rfl
  | cons rule rest ih =>
      rw [List.cons_append, deriveAll, deriveAll]
      cases rule.value record with
      | error failure => rfl
      | ok value => exact ih (record.set rule.field value)

/-- Neither rule sets the field that the other one sets or names, and both name their fields. -/
structure DeriveRule.Apart (first second : DeriveRule) : Prop where
  fields : first.field ≠ second.field
  firstNames : Script.NamesFields first.expression
  secondNames : Script.NamesFields second.expression
  firstIgnores : .reads second.field ∉ Script.mentionsOf first.expression
  secondIgnores : .reads first.field ∉ Script.mentionsOf second.expression

/-- A field that the expression does not name does not matter to the rule. -/
theorem DeriveRule.value_set {rule : DeriveRule} (names : Script.NamesFields rule.expression)
    {field : String} (ignores : .reads field ∉ Script.mentionsOf rule.expression)
    (record : Record) (value : Value) :
    rule.value (record.set field value) = rule.value record := by
  rw [DeriveRule.value, DeriveRule.value]
  refine congrArg _ (names.outcomeOf_congr fun name member => ?_)
  have other : name ≠ field := by
    rintro rfl
    exact ignores member
  exact (lookup_setPair field name value record.fields).trans (if_neg other)

/-- From any record on, the two rules and those after them derive the same in either order. -/
theorem DeriveRule.Apart.deriveAll_swap {first second : DeriveRule} (apart : first.Apart second)
    (after : List DeriveRule) {record : Record}
    (succeeds : (deriveAll (first :: second :: after) record).1 = .ok ()) :
    (deriveAll (second :: first :: after) record).1 = .ok () ∧
      (deriveAll (second :: first :: after) record).2.fields.Perm
        (deriveAll (first :: second :: after) record).2.fields := by
  cases one : first.value record with
  | error failure =>
      rw [deriveAll, one] at succeeds
      cases succeeds
  | ok firstValue =>
      have moved := second.value_set apart.secondNames apart.secondIgnores record firstValue
      cases two : second.value record with
      | error failure =>
          rw [deriveAll, one] at succeeds
          dsimp only at succeeds
          rw [deriveAll, moved, two] at succeeds
          cases succeeds
      | ok secondValue =>
          have other := first.value_set apart.firstNames apart.firstIgnores record secondValue
          have inOrder : deriveAll (first :: second :: after) record = deriveAll after
              ((record.set first.field firstValue).set second.field secondValue) := by
            simp only [deriveAll, one, moved, two]
          have swapped : deriveAll (second :: first :: after) record = deriveAll after
              ((record.set second.field secondValue).set first.field firstValue) := by
            simp only [deriveAll, two, other, one]
          have perm : ((record.set first.field firstValue).set second.field secondValue).fields.Perm
              ((record.set second.field secondValue).set first.field firstValue).fields :=
            setPair_swap apart.fields firstValue secondValue record.fields
          obtain ⟨sameOutcome, sameFields⟩ := deriveAll_perm after perm
          rw [inOrder] at succeeds ⊢
          rw [swapped]
          exact ⟨sameOutcome.symm.trans succeeds, sameFields.symm⟩

/-- Independent rules commute.  If a list of rules derives a record, then so does the list in which
two neighbours that are apart have changed places, and the records hold the same fields with the
same values; for a compiled expression has the same value, or the same failure, for all records that
agree on the fields that it names. -/
theorem independent_rules_commute :
    (∀ (before after : List DeriveRule) (first second : DeriveRule)
      (derivation : CompiledDerivation), first.Apart second →
        DeriveRule.compile (before ++ first :: second :: after) = .ok derivation →
          ∃ swapped, DeriveRule.compile (before ++ second :: first :: after) = .ok swapped ∧
            ∀ record, (derivation.apply record).1 = .ok () →
              (swapped.apply record).1 = .ok () ∧
                (swapped.apply record).2.fields.Perm (derivation.apply record).2.fields) ∧
    ∀ (source : String), Script.NamesFields source →
      ∀ (engine larger : Script.Engine) (serial : Nat) (handle : Script.Handle),
        engine.FreshFrom serial → engine.compile serial source = .ok (handle, larger) →
          ∀ record other : Record,
            (∀ name, .reads name ∈ Script.mentionsOf source →
              record.get? name = other.get? name) →
                larger.valueOf handle record = larger.valueOf handle other := by
  constructor
  · intro before after first second derivation apart compiles
    obtain ⟨swapped, alsoCompiles⟩ :=
      DeriveRule.compile_perm ((List.Perm.swap second first after).append_left before) compiles
    refine ⟨swapped, alsoCompiles, fun record succeeds => ?_⟩
    rw [apply_eq compiles, deriveAll_append] at succeeds ⊢
    rw [apply_eq alsoCompiles, deriveAll_append]
    rcases started : deriveAll before record with ⟨_ | _, middle⟩
    · rw [started] at succeeds
      cases succeeds
    · rw [started] at succeeds
      exact apart.deriveAll_swap after succeeds
  · intro source names engine larger serial handle fresh compiles record other same
    have keeps := (Script.Engine.compile_spec fresh compiles).1
    rw [Script.Engine.valueOf, Script.Engine.valueOf, keeps.evaluate, keeps.evaluate,
      names.outcomeOf_congr same]

/-- Two sums change places before a rule that needs both. -/
theorem independent_rules_commute_sums :
    let first : DeriveRule := ⟨"a + 1", "x"⟩
    let second : DeriveRule := ⟨"b + a", "y"⟩
    let record := Record.ofPairs [("b", .int 2), ("a", .int 1)]
    ∃ derivation swapped, DeriveRule.compile [first, second, ⟨"x + y", "z"⟩] = .ok derivation ∧
      DeriveRule.compile [second, first, ⟨"x + y", "z"⟩] = .ok swapped ∧
        (derivation.apply record).2.fields =
          [("b", .int 2), ("a", .int 1), ("x", .int 2), ("y", .int 3), ("z", .int 5)] ∧
        (swapped.apply record).2.fields.Perm (derivation.apply record).2.fields := by
  intro first second record
  have apart : first.Apart second := by
    refine ⟨by decide, ⟨?_, ?_, ?_⟩, ⟨?_, ?_, ?_⟩, ?_, ?_⟩ <;> decide +kernel
  have each : ∀ rule ∈ [first, second, ⟨"x + y", "z"⟩],
      (Script.compile? rule.expression).isSome := by decide +kernel
  obtain ⟨derivation, compiles⟩ := DeriveRule.compile_ok each
  obtain ⟨swapped, alsoCompiles, same⟩ := independent_rules_commute.1 [] [⟨"x + y", "z"⟩]
    first second derivation apart compiles
  have derived : derivation.apply record = (.ok (), .ofPairs
      [("b", .int 2), ("a", .int 1), ("x", .int 2), ("y", .int 3), ("z", .int 5)]) := by
    rw [apply_eq compiles]
    decide +kernel
  refine ⟨derivation, swapped, compiles, alsoCompiles, ?_, (same record ?_).2⟩
  · rw [derived]
    rfl
  · rw [derived]

end Sluice
