import Sluice.Proofs.Ndjson
import Sluice.Proofs.Script.Engine
import Sluice.Proofs.Script.Spelling

/-!
# Fields as expressions see them

An expression finds a field of a record under its name, and in the map `data` as a property.  Both
show the same value; a field that is not there is unknown as a name and null as a property.  A field
called `data` takes the place of the map.
-/

set_option autoImplicit false

namespace Sluice

/-- A value as an expression shows it: a moment is shown as its text. -/
def Value.shown : Value → Value
  | .moment instant => .text instant.text
  | value => value

theorem Script.Datum.toValue_ofValue (value : Value) : (ofValue value).toValue = value.shown := by
  cases value <;> rfl

namespace Script

/-! ## A property of a variable -/

theorem symbol?_dot {c : Char} (start : isNameStart c = true) (rest : List Char) :
    symbol? ('.' :: c :: rest) = some (.mark .dot, c :: rest) := by
  have noDot : '.' ≠ c := by
    rintro rfl
    exact absurd start (by decide)
  simp [symbol?, refusedSymbols, symbols, noDot]

theorem readTokens_dot {c : Char} (start : isNameStart c = true) (fuel : Nat) (afterOperand : Bool)
    (rest : List Char) : readTokens (fuel + 1) none afterOperand ('.' :: c :: rest) =
      (readTokens fuel none false (c :: rest)).map fun read => (.mark .dot :: read.1, read.2) := by
  rw [readTokens]
  simp [isTokenBlank, isNameStart, notIn?, symbol?_dot start, Token.endsOperand]

section Dotted

variable {first second : String}

theorem tokens?_dotted (legal : isVariableName first = true)
    (legalToo : isVariableName second = true) :
    tokens? (first.toList ++ '.' :: second.toList) =
      some [.name first, .mark .dot, .name second] := by
  obtain ⟨c, others, text, start⟩ := head_of_legal legalToo
  obtain ⟨fuel, enough⟩ : ∃ fuel,
      (first.toList ++ '.' :: second.toList).length + 1 = fuel + 4 := by
    obtain ⟨d, more, long, _⟩ := head_of_legal legal
    refine ⟨(first.toList ++ '.' :: second.toList).length - 3, ?_⟩
    simp only [long, text, List.length_append, List.length_cons]
    omega
  have stops : ∀ d, ('.' :: second.toList).head? = some d → isNameChar d = false := by
    intro d head
    obtain rfl := Option.some.inj head
    decide
  have last := @readTokens_name second legalToo (fuel + 1) false [] (by simp)
  rw [List.append_nil] at last
  rw [tokens?, enough, readTokens_name legal _ _ stops, text, readTokens_dot start, ← text, last]
  rfl

theorem parseExpr_dotted (legal : isVariableName first = true)
    (legalToo : isVariableName second = true) (fuel depth : Nat) :
    parseExpr (fuel + 6) (depth + 2) [.name first, .mark .dot, .name second] =
      some (.chain (.reference first) [.property second false], []) := by
  have noFunction := noFunction_of_legal legal
  have noFunctionToo := noFunction_of_legal legalToo
  have unary : parseUnary (fuel + 5) (depth + 1) [.name first, .mark .dot, .name second] =
      some (.chain (.reference first) [.property second false], []) := by
    simp [parseUnary, Token.unary?, parseChain, parseRoot, parseLinks, after?, noFunction,
      noFunctionToo, Expr.ofChain, -List.contains_eq_mem]
  rw [parseExpr]
  simp [unary, parseBinary]

theorem compile?_dotted (legal : isVariableName first = true)
    (legalToo : isVariableName second = true) :
    compile? (first ++ "." ++ second) =
      some (.chain (.reference first) [.property second false]) := by
  have text : (first ++ "." ++ second).toList = first.toList ++ '.' :: second.toList := by simp
  have plainToo : plainSource second.toList = second.toList := by
    simpa [plainSource] using plainSource_append (isPlain_of_legal legalToo) []
  have plain : plainSource (first.toList ++ '.' :: second.toList) =
      first.toList ++ '.' :: second.toList := by
    rw [plainSource_append (isPlain_of_legal legal), plainSource_cons (by decide), plainToo]
  rw [compile?, text, plain]
  show _ = some (Expr.chain (.reference first) [.property second false]).fold
  apply compilePlain?_of_parse (tokens?_dotted legal legalToo)
  intro fuel depth
  exact parseExpr_dotted legal legalToo (fuel + 2) depth

end Dotted

/-! ## The map of a record -/

/-- The whole record as a datum. -/
def recordMap (record : Record) : Datum :=
  .ofEntries (record.fields.map fun field => (field.1, .ofValue field.2))

theorem lookup_map_snd {α β : Type} (change : α → β) (pairs : List (String × α)) (name : String) :
    (pairs.map fun pair => (pair.1, change pair.2)).lookup name =
      (pairs.lookup name).map change := by
  induction pairs with
  | nil => rfl
  | cons pair rest ih =>
      obtain ⟨key, value⟩ := pair
      by_cases same : name = key
      · simp [same]
      · simp [List.lookup_cons, beq_eq_false_iff_ne.2 same, ih]

theorem property_recordMap (record : Record) (name : String) :
    property (recordMap record) name = .ok (((record.get? name).map Datum.ofValue).getD .unit) := by
  let entries := record.fields.map fun field => (field.1, Datum.ofValue field.2)
  have distinct : (entries.map Prod.fst).Nodup := by
    simpa [entries, Function.comp_def] using record.distinct
  have perm := foldl_setSorted_perm entries [] (by simpa using distinct)
  rw [List.nil_append] at perm
  have found := lookup_perm perm.symm distinct name
  rw [lookup_map_snd] at found
  rw [recordMap, Datum.ofEntries, property, ← found, Record.get?]

/-! ## What the expressions come to -/

section Names

variable {name : String} {record : Record}

theorem outcomeOf_name (legal : isVariableName name = true) (record : Record) :
    outcomeOf name (recordEnvironment record) =
      match recordVariable record name with
      | some datum => .ok datum
      | none => .error (.script name .unknownVariable) := by
  have read : (recordEnvironment record).read name =
      match recordVariable record name with
      | some datum => .ok datum
      | none => .error .unknownVariable := rfl
  rw [outcomeOf, compile?_name legal]
  dsimp only
  rw [Expr.eval, read]
  cases recordVariable record name <;> rfl

theorem recordVariable_found {value : Value} (found : record.get? name = some value) :
    recordVariable record name = some (.ofValue value) := by
  rw [recordVariable, found]

theorem legal_data : isVariableName "data" = true := by decide

theorem outcomeOf_dotted (noData : record.get? "data" = none) (legal : isVariableName name = true) :
    outcomeOf ("data." ++ name) (recordEnvironment record) =
      .ok (((record.get? name).map Datum.ofValue).getD .unit) := by
  have source : "data." ++ name = "data" ++ "." ++ name := rfl
  have read : (recordEnvironment record).read "data" = .ok (recordMap record) := by
    have found : (recordEnvironment record).find "data" = some (recordMap record) := by
      show recordVariable record "data" = _
      rw [recordVariable, noData]
      rfl
    rw [Environment.read, found]
  rw [outcomeOf, source, compile?_dotted legal_data legal]
  dsimp only
  have evaluated : (Expr.chain (.reference "data") [.property name false]).eval
      (recordEnvironment record) = property (recordMap record) name := by
    simp only [Expr.eval, evalLinks, Link.evalArguments, read]
    show follow (recordMap record) [(.property name false, [])] = _
    simp [follow, property_recordMap]
  rw [evaluated, property_recordMap]

end Names

/-- Whatever engine compiles the source, that engine and any that has compiled more evaluate it on
the record with this outcome. -/
def EvaluatesTo (source : String) (record : Record) (outcome : Outcome Value) : Prop :=
  ∀ (engine : Engine) (serial : Nat), engine.FreshFrom serial → ∃ handle larger,
    engine.compile serial source = .ok (handle, larger) ∧
      ∀ later : Engine, larger.Extends later → later.valueOf handle record = outcome

theorem evaluatesTo_of_outcomeOf {source : String} {tree : Expr} {record : Record}
    {outcome : Outcome Datum} (compiled : compile? source = some tree)
    (comes : outcomeOf source (recordEnvironment record) = outcome) :
    EvaluatesTo source record (outcome.map Datum.toValue) := by
  intro engine serial fresh
  obtain ⟨handle, larger, compiles, evaluates⟩ := Engine.evaluates_compiled compiled fresh
  refine ⟨handle, larger, compiles, ?_⟩
  intro later wider
  rw [Engine.valueOf, evaluates later wider, comes]

theorem EvaluatesTo.unique {source : String} {record : Record} {one two : Outcome Value}
    (first : EvaluatesTo source record one) (second : EvaluatesTo source record two) :
    one = two := by
  have fresh : Engine.empty.FreshFrom 0 := fun _ _ => rfl
  obtain ⟨handle, larger, compiles, evaluates⟩ := first .empty 0 fresh
  obtain ⟨_, _, compilesToo, evaluatesToo⟩ := second .empty 0 fresh
  obtain ⟨rfl, rfl⟩ := Prod.mk.inj (Except.ok.inj (compiles.symm.trans compilesToo))
  have kept : larger.Extends larger := fun _ _ found => found
  exact (evaluates larger kept).symm.trans (evaluatesToo larger kept)

section Names

variable {name : String} {record : Record}

theorem evaluatesTo_name {value : Value} (legal : isVariableName name = true)
    (found : record.get? name = some value) : EvaluatesTo name record (.ok value.shown) := by
  have comes := outcomeOf_name legal record
  rw [recordVariable_found found] at comes
  rw [← Datum.toValue_ofValue]
  exact evaluatesTo_of_outcomeOf (compile?_name legal) comes

theorem evaluatesTo_missing (legal : isVariableName name = true) (noMap : name ≠ "data")
    (missing : record.get? name = none) :
    EvaluatesTo name record (.error (.script name .unknownVariable)) := by
  have comes := outcomeOf_name legal record
  have unknown : recordVariable record name = none := by
    rw [recordVariable, missing, if_neg noMap]
  rw [unknown] at comes
  exact evaluatesTo_of_outcomeOf (compile?_name legal) comes

theorem evaluatesTo_map (noData : record.get? "data" = none) :
    EvaluatesTo "data" record (.ok (.text (recordMap record).spoken)) := by
  have comes := outcomeOf_name legal_data record
  have whole : recordVariable record "data" = some (recordMap record) := by
    rw [recordVariable, noData]
    rfl
  rw [whole] at comes
  exact evaluatesTo_of_outcomeOf (compile?_name legal_data) comes

theorem evaluatesTo_dotted (noData : record.get? "data" = none)
    (legal : isVariableName name = true) :
    EvaluatesTo ("data." ++ name) record
      (.ok (((record.get? name).map Value.shown).getD .null)) := by
  have shown : (((record.get? name).map Datum.ofValue).getD .unit).toValue =
      ((record.get? name).map Value.shown).getD .null := by
    cases record.get? name with
    | none => rfl
    | some value => exact Datum.toValue_ofValue value
  rw [← shown]
  exact evaluatesTo_of_outcomeOf (compile?_dotted legal_data legal) (outcomeOf_dotted noData legal)

end Names

/-- What an expression finds of a record.  Where no field is called `data`, a name and the property
of that name show the same field; without such a field the property is null and the name unknown,
but for `data` itself, which is the map of the whole record.  A field called `data` is found under
that name, and all others are found as ever. -/
theorem names_and_map_agree (record : Record) :
    (record.get? "data" = none → ∀ name, isVariableName name = true →
      (∀ value, record.get? name = some value →
        EvaluatesTo name record (.ok value.shown) ∧
        EvaluatesTo ("data." ++ name) record (.ok value.shown)) ∧
      (record.get? name = none →
        EvaluatesTo ("data." ++ name) record (.ok .null) ∧
        EvaluatesTo name record
          (if name = "data" then .ok (.text (recordMap record).spoken)
          else .error (.script name .unknownVariable)))) ∧
    ∀ held, record.get? "data" = some held →
      EvaluatesTo "data" record (.ok held.shown) ∧
      ∀ name value, isVariableName name = true → record.get? name = some value →
        EvaluatesTo name record (.ok value.shown) := by
  constructor
  · intro noData name legal
    have property := evaluatesTo_dotted noData legal
    constructor
    · intro value found
      rw [found] at property
      exact ⟨evaluatesTo_name legal found, property⟩
    · intro missing
      rw [missing] at property
      refine ⟨property, ?_⟩
      split
      · next isData =>
          rw [isData]
          exact evaluatesTo_map noData
      · next other => exact evaluatesTo_missing legal other missing
  · intro held found
    refine ⟨evaluatesTo_name legal_data found, ?_⟩
    intro name value legal here
    exact evaluatesTo_name legal here

/-- A moment as a name and as a property, a field whose name is a property of texts, one that is not
there, and one beside a field called `data`. -/
theorem names_and_map_agree_moment :
    let record := Record.ofPairs [("at", .moment ⟨1709280900, 0, 7200⟩), ("length", .int 3)]
    let shadowed := Record.ofPairs [("age", .int 30), ("data", .bool true)]
    EvaluatesTo "at" record (.ok (.text "2024-03-01T10:15:00+02:00")) ∧
      EvaluatesTo "data.at" record (.ok (.text "2024-03-01T10:15:00+02:00")) ∧
      EvaluatesTo "data.length" record (.ok (.int 3)) ∧
      EvaluatesTo "age" record (.error (.script "age" .unknownVariable)) ∧
      EvaluatesTo "data.age" record (.ok .null) ∧
      EvaluatesTo "data" shadowed (.ok (.bool true)) ∧
      EvaluatesTo "age" shadowed (.ok (.int 30)) := by
  intro record shadowed
  have noData : record.get? "data" = none := by decide
  have shown : (Value.moment ⟨1709280900, 0, 7200⟩).shown = .text "2024-03-01T10:15:00+02:00" := by
    decide +kernel
  obtain ⟨named, dotted⟩ := ((names_and_map_agree record).1 noData "at" (by decide)).1 _ rfl
  obtain ⟨_, length⟩ := ((names_and_map_agree record).1 noData "length" (by decide)).1 _ rfl
  obtain ⟨null, unknown⟩ := ((names_and_map_agree record).1 noData "age" (by decide)).2 (by decide)
  obtain ⟨data, others⟩ := (names_and_map_agree shadowed).2 _ rfl
  rw [shown] at named dotted
  exact ⟨named, dotted, length, unknown, null, data, others "age" _ (by decide) rfl⟩

/-- On a record without a field called `data`, that name is no fault. -/
theorem map_named_without_field :
    isVariableName "data" = true ∧ Record.empty.get? "data" = none ∧
      EvaluatesTo "data" .empty (.ok (.text "#\x7b\x7d")) ∧
      ¬ ∃ fault, EvaluatesTo "data" .empty (.error (.script "data" fault)) := by
  have evaluates : EvaluatesTo "data" .empty (.ok (.text "#\x7b\x7d")) := evaluatesTo_map rfl
  refine ⟨legal_data, rfl, evaluates, ?_⟩
  rintro ⟨fault, fails⟩
  cases evaluates.unique fails

end Script

end Sluice
