import Sluice.Proofs.Handlers
import Sluice.Proofs.Script.Engine

/-!
# Settings are settled first

Settings that are refused end a run before it touches anything, with the failure of the first item
of a list that is not right.  Once they are accepted, no entry can make the run blame them.
-/

set_option autoImplicit false

namespace Sluice

open Run

def Failure.BesideSettings (failure : Failure) : Prop := failure.kind ≠ .configuration

instance : DecidablePred Failure.BesideSettings := fun failure =>
  inferInstanceAs (Decidable (failure.kind ≠ .configuration))

theorem besideSettings_of_io (failure : Failure) (io : failure.kind = .io) :
    failure.BesideSettings := by
  rw [Failure.BesideSettings, io]
  decide

abbrev Outcome.SparesSettings {α : Type} (outcome : Outcome α) : Prop :=
  Outcome.Blames Failure.BesideSettings outcome

namespace Outcome

variable {α : Type}

theorem spares_error {failure : Failure} (beside : failure.kind ≠ .configuration) :
    SparesSettings (.error failure : Outcome α) := blames_error beside

end Outcome

open Outcome

/-! ## Comparing -/

theorem Entry.asRecord_spares (entry : Entry) : SparesSettings entry.asRecord := by
  cases entry with
  | record record => exact blames_ok record
  | file file => exact spares_error nofun

theorem Entry.asFile_spares (entry : Entry) : SparesSettings entry.asFile := by
  cases entry with
  | record record => exact spares_error nofun
  | file file => exact blames_ok file

theorem Value.coerceText_spares (value : Value) : SparesSettings value.coerceText := by
  cases value with
  | null => exact spares_error nofun
  | _ => exact blames_ok _

theorem Value.coerceInt_spares (value : Value) : SparesSettings value.coerceInt := by
  cases value with
  | text s => exact blames_ok _
  | int n => exact blames_ok n
  | float x => exact blames_ok _
  | _ => exact spares_error nofun

theorem Value.coerceFloat_spares (value : Value) : SparesSettings value.coerceFloat := by
  cases value with
  | text s => exact blames_ok _
  | int n => exact blames_ok _
  | float x => exact blames_ok x
  | _ => exact spares_error nofun

theorem ValueOrder.holds_spares {α : Type} (order : ValueOrder α) (operator : Operator)
    (left right : α) : SparesSettings (order.holds operator left right) := by
  cases operator with
  | regex => exact spares_error nofun
  | _ => exact blames_ok _

theorem searcherOf_spares (pattern : String) : SparesSettings (searcherOf pattern) := by
  rw [searcherOf]
  split
  · exact blames_ok _
  · exact spares_error nofun

theorem compareValues_spares (left : Value) (operator : Operator) (right : Value) :
    SparesSettings (compareValues left operator right) := by
  cases left with
  | text l =>
      refine right.coerceText_spares.bind fun r => ?_
      cases operator with
      | regex => exact (searcherOf_spares r).map _
      | _ => exact textOrder.holds_spares _ l r
  | int l => exact right.coerceInt_spares.bind fun r => intOrder.holds_spares operator l r
  | float l => exact right.coerceFloat_spares.bind fun r => floatOrder.holds_spares operator l r
  | _ => exact spares_error nofun

theorem FieldRule.holds_spares (rule : FieldRule) (record : Record) :
    SparesSettings (rule.holds record) := by
  rw [holds]
  split
  · exact blames_ok _
  · exact compareValues_spares _ _ _

theorem routePort_spares (rules : List FieldRule) (default : String) (record : Record) :
    SparesSettings (routePort rules default record) := by
  induction rules with
  | nil => exact blames_ok default
  | cons rule rest ih =>
      refine (rule.holds_spares record).bind fun holds => ?_
      split
      · exact blames_ok _
      · exact ih

/-! ## Expressions -/

namespace Script.Engine

theorem evaluate_spares (engine : Engine) (handle : Handle) (env : Environment) :
    SparesSettings (engine.evaluate handle env) := by
  rw [evaluate]
  cases engine.compiled.lookup handle.name with
  | none => exact spares_error (by simp [Failure.kind])
  | some tree =>
      dsimp only
      cases tree.eval env with
      | ok value => exact blames_ok value
      | error fault => exact spares_error (by simp [Failure.kind])

theorem test_spares (engine : Engine) (handle : Handle) (record : Record) :
    SparesSettings (engine.test handle record) := (engine.evaluate_spares handle _).map _

theorem valueOf_spares (engine : Engine) (handle : Handle) (record : Record) :
    SparesSettings (engine.valueOf handle record) := (engine.evaluate_spares handle _).map _

end Script.Engine

theorem CompiledRouting.firstPort_spares {default : String}
    {test : Script.Handle → Outcome Bool} (tests : ∀ handle, SparesSettings (test handle))
    (routes : List (Script.Handle × String)) :
    SparesSettings (firstPort default test routes) := by
  induction routes with
  | nil => exact blames_ok default
  | cons route rest ih =>
      refine (tests route.1).bind fun holds => ?_
      split
      · exact blames_ok _
      · exact ih

theorem deriveWith_spares (engine : Script.Engine) (rules : List (Script.Handle × String))
    (record : Record) : SparesSettings (deriveWith engine rules record).1 := by
  induction rules generalizing record with
  | nil => exact blames_ok ()
  | cons rule rest ih =>
      obtain ⟨handle, field⟩ := rule
      rw [deriveWith]
      cases valued : engine.valueOf handle record with
      | ok value => exact ih _
      | error failure =>
          exact blames_error (engine.valueOf_spares handle record failure valued)

/-! ## Tables -/

theorem Conversion.convert_spares (conversion : Conversion) (raw : String) :
    SparesSettings (conversion.convert raw) := by
  rw [convert]
  split
  · exact blames_ok _
  all_goals
    split
    · exact blames_ok _
    · exact spares_error nofun

namespace DelimitedFormat

variable (format : DelimitedFormat)

theorem resolve_spares (position : Nat) (header : Option String) :
    SparesSettings (format.resolve position header) := by
  unfold resolve
  split
  · exact blames_ok _
  · split
    · exact blames_ok _
    · split
      · exact blames_ok _
      · exact spares_error nofun

theorem readCells_spares (header : Option (List String)) (position : Nat) (cells : List String)
    (record : Record) : SparesSettings (format.readCells header position cells record) := by
  induction cells generalizing position record with
  | nil => exact blames_ok record
  | cons cell rest ih =>
      refine (format.resolve_spares _ _).bind fun conversion? => ?_
      cases conversion? with
      | none => exact ih _ _
      | some conversion => exact (conversion.convert_spares cell).bind fun value => ih _ _

theorem readRows_spares (file : String) (header : Option (List String)) (width : Option Nat)
    (rows : List (Except DelimitedFault Rows.Row)) :
    SparesSettings (format.readRows file header width rows) := by
  induction rows generalizing width with
  | nil => exact blames_ok []
  | cons row rest ih =>
      cases row with
      | error fault => exact spares_error nofun
      | ok row =>
          rw [readRows]
          split
          · exact spares_error nofun
          · exact (format.readCells_spares header 0 row.cells .empty).bind fun record =>
              (ih _).bind fun records => blames_ok _

theorem readFile_spares (file : String) (delivery : Delivery) :
    SparesSettings (format.readFile file delivery) := by
  rw [readFile]
  split
  · split
    · exact blames_ok []
    · exact spares_error nofun
    · exact format.readRows_spares file _ _ _
  · exact format.readRows_spares file _ _ _

end DelimitedFormat

theorem FixedWidthColumn.slice_spares (column : FixedWidthColumn) (line : List Char)
    (number : Nat) : SparesSettings (column.slice line number) := by
  rw [slice]
  split
  · exact blames_ok _
  · exact spares_error nofun

theorem FixedWidthFormat.readColumns_spares (line : List Char) (number : Nat)
    (columns : List FixedWidthColumn) (record : Record) :
    SparesSettings (readColumns line number columns record) := by
  induction columns generalizing record with
  | nil => exact blames_ok record
  | cons column rest ih =>
      refine (column.slice_spares line number).bind fun cut => ?_
      exact (column.conversion.convert_spares _).bind fun value => ih _

theorem FixedWidthFormat.readLines_spares (format : FixedWidthFormat) (fault : Option StreamFault)
    (number : Nat) (lines : List (Except StreamFault (List Char))) :
    SparesSettings (format.readLines fault number lines) := by
  induction lines generalizing number with
  | nil =>
      unfold readLines
      split
      · exact spares_error nofun
      · exact blames_ok []
  | cons line rest ih =>
      unfold readLines
      split
      · exact ih _
      · cases line with
        | error fault => exact spares_error nofun
        | ok line =>
            dsimp only
            split
            · exact ih _
            · exact (readColumns_spares _ _ _ _).bind fun record =>
                (ih _).bind fun records => blames_ok _

/-! ## Handlers -/

theorem FieldRouting.handle_spares (routing : FieldRouting) (entry : Entry) :
    (routing.handle entry).Blames Failure.BesideSettings := by
  refine (blames_ofOutcome entry.asRecord_spares).bind fun record => ?_
  refine (blames_ofOutcome (routePort_spares _ _ record)).bind fun port => ?_
  exact blames_writeRecord besideSettings_of_io port record

theorem CompiledRouting.handleRecord_spares (routing : CompiledRouting) (entry : Entry) :
    (routing.handleRecord entry).Blames Failure.BesideSettings := by
  refine (blames_ofOutcome entry.asRecord_spares).bind fun record => ?_
  refine (blames_ofOutcome (firstPort_spares (fun handle => ?_) _)).bind fun port => ?_
  · exact routing.engine.test_spares handle record
  · exact blames_writeRecord besideSettings_of_io port record

theorem CompiledRouting.handleFile_spares (routing : CompiledRouting) (entry : Entry) :
    (routing.handleFile entry).Blames Failure.BesideSettings := by
  refine (blames_ofOutcome entry.asFile_spares).bind fun file => ?_
  refine (blames_ofOutcome (firstPort_spares (fun handle => ?_) _)).bind fun port => ?_
  · exact routing.engine.test_spares handle _
  · refine (blames_deliver file).bind fun delivery => ?_
    exact (blames_copyInto besideSettings_of_io port file.name delivery).bind
      fun _ => blames_pure ()

theorem CompiledDerivation.handle_spares (derivation : CompiledDerivation) (entry : Entry) :
    (derivation.handle entry).Blames Failure.BesideSettings := by
  refine (blames_ofOutcome entry.asRecord_spares).bind fun record => ?_
  refine (blames_ofOutcome (deriveWith_spares _ _ record)).bind fun _ => ?_
  exact blames_writeRecord besideSettings_of_io _ _

theorem handleTable_spares {readFile : String → Delivery → Outcome (List Record)}
    (reads : ∀ file delivery, SparesSettings (readFile file delivery)) (entry : Entry) :
    (handleTable readFile entry).Blames Failure.BesideSettings := by
  refine (blames_ofOutcome entry.asFile_spares).bind fun file => ?_
  refine (blames_deliver file).bind fun delivery => ?_
  refine (blames_ofOutcome (reads file.name delivery)).bind fun records => ?_
  exact blames_writeRecords besideSettings_of_io _ records

theorem Path.destination_spares (folder name : String) :
    SparesSettings (destination folder name) := by
  rw [destination]
  split
  · exact blames_ok _
  · exact spares_error nofun

theorem handleSaving_spares (folder : String) (entry : Entry) :
    (handleSaving folder entry).Blames Failure.BesideSettings := by
  rw [handleSaving_eq]
  refine (blames_ofOutcome entry.asFile_spares).bind fun file => ?_
  refine (blames_ofOutcome (Path.destination_spares folder file.name)).bind fun path => ?_
  refine (blames_onDisk besideSettings_of_io _).bind fun place => ?_
  refine (blames_deliver file).bind fun delivery => ?_
  exact (blames_fillPlace besideSettings_of_io place delivery).bind fun _ => blames_pure ()

theorem DelimitedLayout.stage_spares (layout : DelimitedLayout) (policy : Settings.EntryPolicy) :
    (layout.stage policy).Blames Failure.BesideSettings where
  acquire := blames_newFile besideSettings_of_io _ _
  lead := by
    show layout.writeHeader.Blames Failure.BesideSettings
    rw [writeHeader]
    split
    · exact blames_writeRow besideSettings_of_io _ _
    · exact blames_pure ()
  handle entry := (blames_ofOutcome entry.asRecord_spares).bind fun record =>
    blames_writeRow besideSettings_of_io _ _
  trail := blames_flushFile.bind fun flushed =>
    blames_ofStream besideSettings_of_io (fun _ => rfl) flushed
  release written meets := by
    refine blames_flushFile.bind fun _ => ?_
    refine blames_closeFile.attempt_bind fun closed meetsClosed => ?_
    exact blames_ofOutcome (meets.bind fun _ => meetsClosed)

/-- The stage that settings come to does not blame them. -/
theorem settled_spares {function : BuiltinFunction} (builtin : function ∈ builtinFunctions)
    {settings : Settings} {stage : Stage} (settled : function.settle settings = .ok stage) :
    stage.Blames Failure.BesideSettings := by
  simp only [builtinFunctions, List.mem_cons, List.not_mem_nil, or_false] at builtin
  rcases builtin with rfl | rfl | rfl | rfl | rfl | rfl | rfl | rfl
  · obtain ⟨routing, _, _, _, rfl⟩ := FieldRouting.settle_eq_ok.1 settled
    exact Stage.blames_handling routing.handle_spares
  · obtain ⟨_, _, compiled, _, _, _, rfl⟩ := ConditionRouting.settle_eq_ok.1 settled
    exact Stage.blames_handling compiled.handleRecord_spares
  · obtain ⟨_, _, compiled, _, _, _, rfl⟩ := ConditionRouting.settle_eq_ok.1 settled
    exact Stage.blames_handling compiled.handleFile_spares
  · obtain ⟨_, _, derivation, _, _, _, rfl⟩ := DeriveRule.settle_eq_ok.1 settled
    exact Stage.blames_handling derivation.handle_spares
  · obtain ⟨format, _, _, _, rfl⟩ := DelimitedFormat.settle_eq_ok.1 settled
    exact Stage.blames_handling (handleTable_spares format.readFile_spares)
  · obtain ⟨format, _, _, _, rfl⟩ := FixedWidthFormat.settle_eq_ok.1 settled
    exact Stage.blames_handling
      (handleTable_spares fun _ delivery => format.readLines_spares _ _ _)
  · obtain ⟨layout, policy, _, _, rfl⟩ := DelimitedLayout.settle_eq_ok.1 settled
    exact layout.stage_spares policy
  · obtain ⟨folder, _, _, _, rfl⟩ := Path.settle_eq_ok.1 settled
    exact Stage.blames_handling (handleSaving_spares folder)

/-! ## Lists of settings -/

structure InOrder {α : Type} (readAt : Nat → Json → Outcome α)
    (readAll : Nat → List Json → Outcome (List α)) : Prop where
  nil : ∀ index, readAll index [] = .ok []
  cons : ∀ index item rest, readAll index (item :: rest) = (do
    let first ← readAt index item
    let others ← readAll (index + 1) rest
    .ok (first :: others))

def verdictsFrom {α : Type} (readAt : Nat → Json → Outcome α) :
    Nat → List Json → List (Outcome Unit)
  | _, [] => []
  | index, item :: rest =>
    (readAt index item).map (fun _ => ()) :: verdictsFrom readAt (index + 1) rest

structure FirstFailure (verdicts : List (Outcome Unit)) (failure : Failure) : Prop where
  first : ∃ earlier later, verdicts = earlier ++ .error failure :: later ∧
    ∀ verdict ∈ earlier, verdict = .ok ()

theorem FirstFailure.cases {verdict : Outcome Unit} {rest : List (Outcome Unit)}
    {failure : Failure} (fails : FirstFailure (verdict :: rest) failure) :
    verdict = .error failure ∨ (verdict = .ok () ∧ FirstFailure rest failure) := by
  obtain ⟨⟨_ | ⟨one, earlier⟩, later, whole, passed⟩⟩ := fails
  · exact .inl (List.cons.inj whole).1
  · obtain ⟨rfl, rest⟩ := List.cons.inj whole
    exact .inr ⟨passed _ (List.mem_cons_self ..),
      ⟨earlier, later, rest, fun other member => passed other (List.mem_cons_of_mem _ member)⟩⟩

theorem FirstFailure.not_nil {failure : Failure} : ¬FirstFailure [] failure := by
  rintro ⟨earlier, later, whole, _⟩
  simp at whole

theorem FirstFailure.unique {verdicts : List (Outcome Unit)} {failure other : Failure}
    (one : FirstFailure verdicts failure) (two : FirstFailure verdicts other) :
    failure = other := by
  induction verdicts with
  | nil => exact absurd one FirstFailure.not_nil
  | cons verdict rest ih =>
      rcases one.cases with failed | ⟨passed, later⟩
      · rcases two.cases with same | ⟨passed, _⟩
        · exact Except.error.inj (failed.symm.trans same)
        · cases failed.symm.trans passed
      · rcases two.cases with failed | ⟨_, laterToo⟩
        · cases passed.symm.trans failed
        · exact ih later laterToo

theorem InOrder.fails {α : Type} {readAt : Nat → Json → Outcome α}
    {readAll : Nat → List Json → Outcome (List α)} (inOrder : InOrder readAt readAll)
    {index : Nat} {items : List Json} {failure : Failure}
    (fails : FirstFailure (verdictsFrom readAt index items) failure) :
    readAll index items = .error failure := by
  induction items generalizing index with
  | nil => exact absurd fails FirstFailure.not_nil
  | cons item rest ih =>
      rw [inOrder.cons]
      cases read : readAt index item with
      | error found =>
          rcases fails.cases with same | ⟨passed, _⟩
          · rw [read] at same
            cases same
            rfl
          · rw [read] at passed
            cases passed
      | ok value =>
          rcases fails.cases with same | ⟨_, later⟩
          · rw [read] at same
            cases same
          · rw [Outcome.ok_bind, ih later]
            rfl

def Settings.readItem {α : Type} (key : String) (read : Settings → Outcome α) (index : Nat)
    (item : Json) : Outcome α := do
  let members ← Settings.ofItem item key index
  (read members).mapError (Failure.within key index)

theorem readItems_inOrder {α : Type} (key : String) (read : Settings → Outcome α) :
    InOrder (Settings.readItem key read) (Settings.readItems key read) where
  nil _ := rfl
  cons index item rest := by
    rw [Settings.readItems, Settings.readItem]
    cases Settings.ofItem item key index <;> rfl

def ConditionRouting.readAt (index : Nat) (item : Json) : Outcome ConditionRule := do
  let rule ← Settings.ofItem item FieldRouting.rulesKey index
  let condition ← rule.requiredText "jsCondition"
  let port ← rule.requiredText FieldRouting.portKey
  .ok ⟨condition, port⟩

theorem readRules_inOrder : InOrder ConditionRouting.readAt ConditionRouting.readRules where
  nil _ := rfl
  cons index item rest := by
    rw [ConditionRouting.readRules, ConditionRouting.readAt]
    simp only [bind_assoc]
    rfl

def DeriveRule.readAt (index : Nat) (item : Json) : Outcome DeriveRule := do
  let rule ← Settings.ofItem item FieldRouting.rulesKey index
  let expression ← rule.requiredText "jsExpression"
  let field ← rule.requiredText "outputField"
  .ok ⟨expression, field⟩

theorem readAll_inOrder : InOrder DeriveRule.readAt DeriveRule.readAll where
  nil _ := rfl
  cons index item rest := by
    rw [DeriveRule.readAll, DeriveRule.readAt]
    simp only [bind_assoc]
    rfl

def DelimitedLayout.readFieldAt (index : Nat) : Json → Outcome String
  | .text name => .ok name
  | other => .error (Settings.wrongType (Settings.itemKey fieldsKey index) "a string" other)

theorem readFields_inOrder : InOrder DelimitedLayout.readFieldAt DelimitedLayout.readFields where
  nil _ := rfl
  cons index item rest := by cases item <;> rfl

def Script.verdictOf (source : String) : Outcome Unit :=
  match Script.compile? source with
  | some _ => .ok ()
  | none => .error (.script source .malformed)

theorem Script.verdictOf_ok {source : String} (compiles : (Script.compile? source).isSome) :
    Script.verdictOf source = .ok () := by
  obtain ⟨tree, compiled⟩ := Option.isSome_iff_exists.1 compiles
  rw [verdictOf, compiled]

theorem Script.Engine.compileAll_fails {sources : List String} {failure : Failure}
    (fails : FirstFailure (sources.map Script.verdictOf) failure) (engine : Script.Engine)
    (serial : Nat) : ∃ larger, engine.compileAll serial sources = (.error failure, larger) := by
  rcases compileAll_cases engine serial sources with ⟨_, _, _, each⟩ |
    ⟨earlier, source, later, larger, rfl, each, malformed, result⟩
  · obtain ⟨before, after, whole, _⟩ := fails
    have member : .error failure ∈ sources.map Script.verdictOf := by
      rw [whole]
      simp
    obtain ⟨source, listed, failed⟩ := List.mem_map.1 member
    cases (Script.verdictOf_ok (each source listed)).symm.trans failed
  · have first : FirstFailure ((earlier ++ source :: later).map Script.verdictOf)
        (.script source .malformed) := by
      refine ⟨earlier.map Script.verdictOf, later.map Script.verdictOf, ?_, ?_⟩
      · rw [List.map_append, List.map_cons, Script.verdictOf, malformed]
      · intro verdict member
        obtain ⟨other, listed, rfl⟩ := List.mem_map.1 member
        exact Script.verdictOf_ok (each other listed)
    exact ⟨larger, by rw [result, fails.unique first]⟩

theorem ConditionRouting.compile_fails {routing : ConditionRouting} {failure : Failure}
    (fails : FirstFailure ((routing.rules.map (·.condition)).map Script.verdictOf) failure) :
    routing.compile = .error failure := by
  obtain ⟨larger, result⟩ := Script.Engine.compileAll_fails fails .empty 0
  rw [compile, result]
  rfl

theorem DeriveRule.compile_fails {rules : List DeriveRule} {failure : Failure}
    (fails : FirstFailure ((rules.map (·.expression)).map Script.verdictOf) failure) :
    compile rules = .error failure := by
  obtain ⟨larger, result⟩ := Script.Engine.compileAll_fails fails .empty 0
  rw [compile, result]
  rfl

/-! ## Stages of the validation -/

/-- The lists that the settings of a function are checked by, each with the verdicts on its items:
the items of a list, once what comes before the list is accepted, and then the sources of its
rules. -/
inductive Checks : BuiltinFunction → Settings → List (Outcome Unit) → Prop where
  | fieldRules {settings : Settings} {default : String} {items : List Json}
      (before : settings.requiredText FieldRouting.defaultPortKey = .ok default)
      (listed : settings.requiredList FieldRouting.rulesKey = .ok items) :
      Checks routeByField settings
        (verdictsFrom (Settings.readItem FieldRouting.rulesKey FieldRouting.readRule) 0 items)
  | conditionRules {function : BuiltinFunction} {settings : Settings} {default : String}
      {items : List Json} (router : function = routeByCondition ∨ function = routeFiles)
      (before : settings.requiredText FieldRouting.defaultPortKey = .ok default)
      (listed : settings.requiredList FieldRouting.rulesKey = .ok items) :
      Checks function settings (verdictsFrom ConditionRouting.readAt 0 items)
  | conditions {function : BuiltinFunction} {settings : Settings} {routing : ConditionRouting}
      {policy : Settings.EntryPolicy} (router : function = routeByCondition ∨ function = routeFiles)
      (read : ConditionRouting.ofSettings settings = .ok routing)
      (before : settings.entryPolicy = .ok policy) :
      Checks function settings ((routing.rules.map (·.condition)).map Script.verdictOf)
  | deriveRules {settings : Settings} {items : List Json}
      (listed : settings.requiredList FieldRouting.rulesKey = .ok items) :
      Checks transformRecords settings (verdictsFrom DeriveRule.readAt 0 items)
  | expressions {settings : Settings} {rules : List DeriveRule} {policy : Settings.EntryPolicy}
      (read : DeriveRule.ofSettings settings = .ok rules)
      (before : settings.entryPolicy = .ok policy) :
      Checks transformRecords settings ((rules.map (·.expression)).map Script.verdictOf)
  | delimitedColumns {settings : Settings} {hasHeader namesByHeader ignores : Bool}
      {delimiter : UInt8} {items : List Json}
      (header : settings.optionalBool "hasHeaderRow" false = .ok hasHeader)
      (names : settings.optionalBool "useHeaderColumnNamesAsFieldNames" false = .ok namesByHeader)
      (unmapped : settings.optionalBool "ignoreUnmappedColumns" false = .ok ignores)
      (before : settings.delimiter "delimiter" 44 = .ok delimiter)
      (listed : settings.requiredList "columns" = .ok items) :
      Checks parseDelimited settings
        (verdictsFrom (Settings.readItem "columns" (DelimitedColumn.ofSettings namesByHeader))
          0 items)
  | fixedColumns {settings : Settings} {hasHeader : Bool} {items : List Json}
      (before : settings.optionalBool "hasHeaderRow" false = .ok hasHeader)
      (listed : settings.requiredList "columns" = .ok items) :
      Checks parseFixedWidth settings
        (verdictsFrom (Settings.readItem "columns" FixedWidthColumn.ofSettings) 0 items)
  | headerFields {settings : Settings} {items : List Json}
      (listed : settings.requiredList DelimitedLayout.fieldsKey = .ok items) :
      Checks generateDelimited settings (verdictsFrom DelimitedLayout.readFieldAt 0 items)

/-- Both routers by condition settle their settings alike. -/
theorem settle_of_router {function : BuiltinFunction}
    (router : function = routeByCondition ∨ function = routeFiles) :
    ∃ handle, function.settle = ConditionRouting.settle handle := by
  rcases router with rfl | rfl
  · exact ⟨_, rfl⟩
  · exact ⟨_, rfl⟩

/-- The first item of a list that is refused decides what the settings come to. -/
theorem Checks.settle {function : BuiltinFunction} {settings : Settings}
    {verdicts : List (Outcome Unit)} (checks : Checks function settings verdicts)
    {failure : Failure} (fails : FirstFailure verdicts failure) :
    function.settle settings = .error failure := by
  cases checks with
  | fieldRules before listed =>
      have read := (readItems_inOrder _ _).fails fails
      simp only [routeByField, FieldRouting.settle, FieldRouting.ofSettings, before, listed,
        Outcome.ok_bind, read]
      rfl
  | conditionRules router before listed =>
      obtain ⟨handle, settles⟩ := settle_of_router router
      have read := readRules_inOrder.fails fails
      simp only [settles, ConditionRouting.settle, ConditionRouting.ofSettings, before, listed,
        Outcome.ok_bind, read]
      rfl
  | conditions router read before =>
      obtain ⟨handle, settles⟩ := settle_of_router router
      simp only [settles, ConditionRouting.settle, read, before, Outcome.ok_bind,
        ConditionRouting.compile_fails fails]
      rfl
  | deriveRules listed =>
      have read := readAll_inOrder.fails fails
      simp only [transformRecords, DeriveRule.settle, DeriveRule.ofSettings, listed,
        Outcome.ok_bind, read]
      rfl
  | expressions read before =>
      simp only [transformRecords, DeriveRule.settle, read, before, Outcome.ok_bind,
        DeriveRule.compile_fails fails]
      rfl
  | delimitedColumns header names unmapped before listed =>
      have columns := (readItems_inOrder _ _).fails fails
      simp only [parseDelimited, DelimitedFormat.settle, DelimitedFormat.ofSettings, header, names,
        unmapped, before, Settings.columns, listed, Outcome.ok_bind, columns]
      rfl
  | fixedColumns before listed =>
      have columns := (readItems_inOrder _ _).fails fails
      simp only [parseFixedWidth, FixedWidthFormat.settle, FixedWidthFormat.ofSettings, before,
        Settings.columns, listed, Outcome.ok_bind, columns]
      rfl
  | headerFields listed =>
      have read := readFields_inOrder.fails fails
      simp only [generateDelimited, DelimitedLayout.settle, DelimitedLayout.ofSettings, listed,
        Outcome.ok_bind, read]
      rfl

/-! ## Runs -/

/-- What a run comes to whose settings are refused: the output is closed, and that is all. -/
theorem perform_refused_on (failure : Failure) (inputs : List (String × InputPort)) (disk : Disk)
    (plan : FaultPlan) :
    let refused := perform (.error failure) (.on inputs disk plan)
    refused.1 = .error failure ∧ refused.2.inputs = inputs ∧ refused.2.disk = disk ∧
      refused.2.output = Output.empty.close ∧ refused.2.openFile? = none ∧
        ∃ closed, refused.2.journal = [⟨.close, closed⟩] := by
  have body : Run.body (.error failure) (.on inputs disk plan) =
      (.error failure, .on inputs disk plan) := rfl
  dsimp only
  rw [perform, withOutput_apply, body]
  rcases closeOutput_cases (.on inputs disk plan) with ⟨_, _, result⟩ | ⟨_, result⟩
  · rw [result]
    exact ⟨rfl, rfl, rfl, rfl, rfl, false, rfl⟩
  · rw [result]
    exact ⟨rfl, rfl, rfl, rfl, rfl, true, rfl⟩

/-- The settings of a function are settled before its data.  Either they are refused: then every
run, whatever it is given, ends with the same failure, its inputs and disk are as they were, nothing
is on its output, and its only call closes that.  Or they are accepted, and then no run whose ports
do not blame the settings does so, as none does on memory.  The failure is that of the first item
refused when the items of a list are checked, or else the sources of its rules. -/
theorem settings_settled_first (function : BuiltinFunction)
    (builtin : function ∈ builtinFunctions) (settings : Settings) :
    (∀ failure, function.settle settings = .error failure →
      ∀ (inputs : List (String × InputPort)) (disk : Disk) (plan : FaultPlan),
        let (outcome, final) := function.execute settings (.on inputs disk plan)
        outcome = .error failure ∧ final.inputs = inputs ∧ final.disk = disk ∧
          final.output = Output.empty.close ∧ final.openFile? = none ∧
            ∃ closed, final.journal = [⟨.close, closed⟩]) ∧
    (∀ stage, function.settle settings = .ok stage →
      ∀ (inputs : List (String × InputPort)) (disk : Disk) (plan : FaultPlan),
        plan.Blames (·.kind ≠ .configuration) → ∀ failure,
          (function.execute settings (.on inputs disk plan)).1 = .error failure →
            failure.kind ≠ .configuration) ∧
    ∀ verdicts failure, Checks function settings verdicts → FirstFailure verdicts failure →
      ∀ (inputs : List (String × InputPort)) (disk : Disk) (plan : FaultPlan),
        (function.execute settings (.on inputs disk plan)).1 = .error failure := by
  refine ⟨fun failure refused inputs disk plan => ?_,
    fun stage settled inputs disk plan ports failure fails => ?_,
    fun verdicts failure checks first inputs disk plan => ?_⟩
  · rw [BuiltinFunction.execute, refused]
    exact perform_refused_on failure inputs disk plan
  · rw [BuiltinFunction.execute, settled] at fails
    have spares := (settled_spares builtin settled).perform besideSettings_of_io
    exact (spares (.on inputs disk plan) ports).2 failure fails
  · rw [BuiltinFunction.execute, checks.settle first]
    exact (perform_refused_on failure inputs disk plan).1

/-- Of three columns the second has no length and the third is no mapping. -/
theorem settings_settled_first_columns :
    let column : Json := .object [("datatype", .text "string"), ("fieldName", .text "a"),
      ("length", .int 2), ("start", .int 0)]
    let broken : Json := .object [("datatype", .text "string"), ("start", .int 0)]
    let settings : Settings := [("columns", .list [column, broken, .null])]
    let inputs := Session.inputsOf [.file (.ofBytes "a.txt" [97, 98])]
    let (outcome, final) := parseFixedWidth.execute settings (.on inputs .empty .none)
    outcome = .error (.settings "columns[1].length" "required key is missing") ∧
      final.inputs = inputs ∧ final.output = Output.empty.close := by
  intro column broken settings inputs
  have settles := settings_settled_first parseFixedWidth (by simp [builtinFunctions]) settings
  have checks : Checks parseFixedWidth settings (verdictsFrom
      (Settings.readItem "columns" FixedWidthColumn.ofSettings) 0 [column, broken, .null]) :=
    .fixedColumns rfl rfl
  have first : FirstFailure (verdictsFrom
      (Settings.readItem "columns" FixedWidthColumn.ofSettings) 0 [column, broken, .null])
      (.settings "columns[1].length" "required key is missing") :=
    ⟨[.ok ()], [.error (.settings "columns[2]" "expected a mapping, got null")], by rfl, by simp⟩
  have refused := settles.2.2 _ _ checks first inputs .empty .none
  obtain ⟨_, sameInputs, _, nothing, _⟩ := settles.1 _ (checks.settle first) inputs .empty .none
  exact ⟨refused, sameInputs, nothing⟩

end Sluice
