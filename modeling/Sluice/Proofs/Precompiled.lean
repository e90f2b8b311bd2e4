import Mathlib.Data.List.Forall2
import Sluice.Proofs.Routing

/-!
# Patterns compiled ahead

The pattern of a literal operand is compiled once, when its rule is made.  The rules that are made
route every record as the written rules do when each of them is compared anew, and a literal pattern
can only fail where its rule is made.
-/

set_option autoImplicit false

namespace Sluice

structure WrittenRule where
  field : String
  operator : Operator
  operand : Operand
  port : String

namespace WrittenRule

def make (rule : WrittenRule) : Outcome FieldRule :=
  FieldRule.make rule.field rule.operator rule.operand rule.port

/-- The value to compare with; a missing field is null. -/
def right (rule : WrittenRule) (record : Record) : Value :=
  match rule.operand with
  | .literal value => value
  | .field name => record.getOrNull name

/-- The comparison that the rule states, any pattern being compiled for it. -/
def compares (rule : WrittenRule) (record : Record) : Outcome Bool :=
  compareValues (record.getOrNull rule.field) rule.operator (rule.right record)

def table (default : String) (rules : List WrittenRule) : RouteTable :=
  ⟨default, rules.map fun rule => (rule.compares, rule.port)⟩

end WrittenRule

/-! ## Rules that are made -/

/-- What is made of a written rule: with a literal pattern its searcher, otherwise nothing new. -/
inductive Makes : WrittenRule → FieldRule → Prop where
  | pattern {value : Value} {text : String} {searcher : Pattern.Searcher} (field port : String)
      (coerced : value.coerceText = .ok text) (compiles : Pattern.compile? text = some searcher) :
      Makes ⟨field, .regex, .literal value, port⟩
        ⟨field, .regex, .literal value, port, some searcher⟩
  | plain (rule : WrittenRule)
      (other : ∀ value, rule.operator = .regex → rule.operand ≠ .literal value) :
      Makes rule ⟨rule.field, rule.operator, rule.operand, rule.port, none⟩

theorem searcherOf_eq_ok {text : String} {searcher : Pattern.Searcher} :
    searcherOf text = .ok searcher ↔ Pattern.compile? text = some searcher := by
  rw [searcherOf]
  cases Pattern.compile? text <;> simp

namespace WrittenRule

theorem make_literal (field port : String) (value : Value) :
    make ⟨field, .regex, .literal value, port⟩ = value.coerceText >>= fun text =>
      searcherOf text >>= fun searcher =>
        .ok ⟨field, .regex, .literal value, port, some searcher⟩ := rfl

theorem make_plain (rule : WrittenRule)
    (other : ∀ value, rule.operator = .regex → rule.operand ≠ .literal value) :
    rule.make = .ok ⟨rule.field, rule.operator, rule.operand, rule.port, none⟩ := by
  rw [make, FieldRule.make]
  exact other

theorem make_eq_ok {rule : WrittenRule} {made : FieldRule} :
    rule.make = .ok made ↔ Makes rule made := by
  constructor
  · intro success
    by_cases literal : ∃ value, rule.operator = .regex ∧ rule.operand = .literal value
    · obtain ⟨field, operator, operand, port⟩ := rule
      obtain ⟨value, rfl, rfl⟩ := literal
      rw [make_literal] at success
      obtain ⟨text, coerced, rest⟩ := Outcome.bind_eq_ok.mp success
      obtain ⟨searcher, compiled, last⟩ := Outcome.bind_eq_ok.mp rest
      cases last
      exact .pattern field port coerced (searcherOf_eq_ok.mp compiled)
    · have other : ∀ value, rule.operator = .regex → rule.operand ≠ .literal value := by
        intro value regex same
        exact literal ⟨value, regex, same⟩
      cases (rule.make_plain other).symm.trans success
      exact .plain rule other
  · intro makes
    cases makes with
    | pattern field port coerced compiles =>
        rw [make_literal, coerced, Outcome.ok_bind, searcherOf_eq_ok.mpr compiles, Outcome.ok_bind]
    | plain _ other => exact rule.make_plain other

end WrittenRule

/-! ## Comparing and routing -/

theorem compareValues_regex {value : Value} {text : String} {searcher : Pattern.Searcher}
    (coerced : value.coerceText = .ok text) (compiles : Pattern.compile? text = some searcher)
    (l : String) : compareValues (.text l) .regex value = .ok (searcher.occursIn l) := by
  rw [compareValues, coerced, Outcome.ok_bind, searcherOf_eq_ok.mpr compiles]
  rfl

namespace Makes

variable {rule : WrittenRule} {made : FieldRule}

theorem port_eq (makes : Makes rule made) : made.port = rule.port := by
  cases makes <;> rfl

/-- A searcher finds in a text what its pattern, compiled anew, finds in it; other values are
compared as they always are. -/
theorem holds_eq (makes : Makes rule made) (record : Record) :
    made.holds record = rule.compares record := by
  cases makes with
  | plain => rfl
  | pattern field port coerced compiles =>
      rw [FieldRule.holds, WrittenRule.compares]
      dsimp only
      cases record.getOrNull field with
      | text l => exact (compareValues_regex coerced compiles l).symm
      | null | int | float | bool | moment => rfl

/-- The rules are tried in turn, and each of them tells what its written rule tells. -/
theorem routePort_eq {written : List WrittenRule} {rules : List FieldRule}
    (make : List.Forall₂ Makes written rules) (default : String) (record : Record) :
    routePort rules default record = (WrittenRule.table default written).choose record := by
  rw [RouteTable.choose, WrittenRule.table]
  induction make with
  | nil => rfl
  | cons makes _ ih =>
      rw [routePort, List.map_cons, RouteTable.firstTrue, makes.holds_eq, makes.port_eq, ih]

end Makes

/-! ## Literal patterns -/

theorem exists_make_iff (field port : String) (value : Value) :
    (∃ made, WrittenRule.make ⟨field, .regex, .literal value, port⟩ = .ok made) ↔
      ∃ text, value.coerceText = .ok text ∧ (Pattern.compile? text).isSome = true := by
  constructor
  · rintro ⟨made, success⟩
    cases WrittenRule.make_eq_ok.mp success with
    | pattern _ _ coerced compiles => exact ⟨_, coerced, by rw [compiles]; rfl⟩
    | plain _ other => exact absurd rfl (other value rfl)
  · rintro ⟨text, coerced, compiles⟩
    obtain ⟨searcher, found⟩ := Option.isSome_iff_exists.mp compiles
    exact ⟨_, WrittenRule.make_eq_ok.mpr (.pattern field port coerced found)⟩

/-- A value that is no text is not searched, so that no pattern is compiled for it. -/
theorem compareValues_ne_pattern {left : Value} (noText : ∀ l, left ≠ .text l)
    (operator : Operator) (right : Value) :
    compareValues left operator right ≠ .error .pattern := by
  cases left with
  | text l => exact absurd rfl (noText l)
  | int l =>
      cases right <;> cases operator <;>
        simp [compareValues, Value.coerceInt, ValueOrder.holds, coercionFault, bind, Except.bind]
  | float l =>
      cases right <;> cases operator <;>
        simp [compareValues, Value.coerceFloat, ValueOrder.holds, coercionFault, bind, Except.bind]
  | null | bool | moment => simp [compareValues]

/-- A literal pattern is well formed when it comes to a record: a text is searched, and another
value fails for its kind. -/
theorem Makes.searches {field port : String} {value : Value} {made : FieldRule}
    (makes : Makes ⟨field, .regex, .literal value, port⟩ made) (record : Record) :
    made.holds record ≠ .error .pattern ∧
      ∀ l, record.getOrNull field = .text l → ∃ found, made.holds record = .ok found := by
  have anew : made.holds record = compareValues (record.getOrNull field) .regex value :=
    makes.holds_eq record
  rw [anew]
  cases makes with
  | plain _ other => exact absurd rfl (other value rfl)
  | pattern _ _ coerced compiles =>
      by_cases isText : ∃ l, record.getOrNull field = .text l
      · obtain ⟨l, left⟩ := isText
        rw [left, compareValues_regex coerced compiles l]
        exact ⟨nofun, fun _ _ => ⟨_, rfl⟩⟩
      · refine ⟨?_, ?_⟩
        · apply compareValues_ne_pattern
          intro l left
          exact isText ⟨l, left⟩
        · intro l left
          exact absurd ⟨l, left⟩ isText

/-- Rules that are made route as the written rules do, any pattern being compiled anew.  A rule with
a literal pattern is made if and only if the pattern can be had and compiles, and no record makes
such a pattern fail. -/
theorem made_rules_route_alike :
    (∀ (written : List WrittenRule) (rules : List FieldRule) (default : String) (record : Record),
      List.Forall₂ (fun rule made => rule.make = .ok made) written rules →
      routePort rules default record = (WrittenRule.table default written).choose record) ∧
    ∀ (field port : String) (value : Value),
      ((∃ made, WrittenRule.make ⟨field, .regex, .literal value, port⟩ = .ok made) ↔
        ∃ text, value.coerceText = .ok text ∧ (Pattern.compile? text).isSome = true) ∧
      ∀ made, WrittenRule.make ⟨field, .regex, .literal value, port⟩ = .ok made →
        ∀ record : Record, made.holds record ≠ .error .pattern ∧
          ∀ l, record.getOrNull field = .text l → ∃ found, made.holds record = .ok found := by
  refine ⟨?_, ?_⟩
  · intro written rules default record success
    apply Makes.routePort_eq
    exact success.imp fun _ _ made => WrittenRule.make_eq_ok.mp made
  · intro field port value
    refine ⟨exists_make_iff field port value, ?_⟩
    intro made success record
    exact (WrittenRule.make_eq_ok.mp success).searches record

/-- An integer is not searched, although the pattern is compiled. -/
theorem made_rules_route_alike_integer :
    ∃ made, WrittenRule.make ⟨"code", .regex, .literal (.text "^a+$"), "letters"⟩ = .ok made ∧
      routePort [made] "rest" (Record.ofPairs [("code", .int 5)]) =
        .error (.unsupported "regex operator requires a string field") ∧
      made.holds (Record.ofPairs [("code", .int 5)]) ≠ .error .pattern := by
  obtain ⟨routes, literals⟩ := made_rules_route_alike
  obtain ⟨isMade, searches⟩ := literals "code" "letters" (.text "^a+$")
  obtain ⟨made, success⟩ := isMade.mpr ⟨"^a+$", rfl, by decide⟩
  refine ⟨made, success, ?_, (searches made success _).1⟩
  rw [routes [⟨"code", .regex, .literal (.text "^a+$"), "letters"⟩] [made] _ _
    (.cons success .nil)]
  rfl

end Sluice
