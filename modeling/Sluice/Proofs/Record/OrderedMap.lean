import Mathlib.Data.Finset.Card
import Sluice.Exchange
import Sluice.Proofs.Record

/-!
# Records as ordered maps

However a record has come about, a name stands in it once, in the place where it was set first, with
the value that it was set to last.  Two records are the same when they hold the same values under
the same names, so that the order in which different names were set does not matter for that.
-/

set_option autoImplicit false

namespace Sluice

/-! ## How records come about -/

/-- What is done with a record: one field is set, or a record is made anew, of pairs or of a JSON
document.  A document that is no object makes no record. -/
inductive RecordStep where
  | set (name : String) (value : Value)
  | ofPairs (pairs : List (String × Value))
  | ofJson (document : Json)

namespace RecordStep

def apply (record : Record) : RecordStep → Record
  | set name value => record.set name value
  | ofPairs pairs => .ofPairs pairs
  | ofJson document => (Record.ofJson? document).getD record

/-- What was set since a record was last made anew, the latest pair last. -/
def extend (pairs : List (String × Value)) : RecordStep → List (String × Value)
  | set name value => pairs ++ [(name, value)]
  | ofPairs others => others
  | ofJson (.object members) => members.map fun member => (member.1, .ofJson member.2)
  | ofJson _ => pairs

def run (steps : List RecordStep) : Record := steps.foldl apply .empty

def history (steps : List RecordStep) : List (String × Value) := steps.foldl extend []

def sets (pairs : List (String × Value)) : List RecordStep :=
  pairs.map fun pair => set pair.1 pair.2

theorem apply_ofPairs (pairs : List (String × Value)) (step : RecordStep) :
    step.apply (.ofPairs pairs) = .ofPairs (step.extend pairs) := by
  cases step with
  | set name value => exact (Record.ofPairs_concat pairs (name, value)).symm
  | ofPairs others => rfl
  | ofJson document => cases document <;> rfl

theorem run_eq (steps : List RecordStep) : run steps = .ofPairs (history steps) := by
  induction steps using List.reverseRecOn with
  | nil => rfl
  | append_singleton before step ih =>
      have last : run (before ++ [step]) = step.apply (run before) := by simp [run]
      have lastPairs : history (before ++ [step]) = step.extend (history before) := by
        simp [history]
      rw [last, lastPairs, ih, apply_ofPairs]

end RecordStep

namespace Record

/-! ## What a record holds -/

/-- A record of some pairs: each name once and in the order of first mention, and under it the value
of the last mention. -/
structure Maps (record : Record) (pairs : List (String × Value)) : Prop where
  unique : record.names.Nodup
  last : ∀ name value, record.get? name = some value ↔ ∃ before after,
    pairs = before ++ (name, value) :: after ∧ name ∉ after.map Prod.fst
  absent : ∀ name, record.get? name = none ↔ name ∉ pairs.map Prod.fst
  order : record.names = (pairs.map Prod.fst).eraseDups
  listed : ∀ pair, pair ∈ record.fields ↔ record.get? pair.1 = some pair.2
  size : record.size = (pairs.map Prod.fst).toFinset.card
  /-- The record is made again of its own fields. -/
  rebuilt : ofPairs record.fields = record

theorem length_names (record : Record) : record.names.length = record.size := List.length_map ..

theorem mem_fields_iff (record : Record) (pair : String × Value) :
    pair ∈ record.fields ↔ record.get? pair.1 = some pair.2 :=
  ⟨lookup_of_mem record.distinct, mem_of_lookup⟩

theorem get?_eq_none_iff (record : Record) (name : String) :
    record.get? name = none ↔ name ∉ record.names := by
  rw [get?, List.lookup_eq_none_iff, names]
  grind

theorem ofPairs_self (record : Record) : ofPairs record.fields = record := by
  have same := ofPairs_fields record.fields record.distinct
  cases record
  cases made : ofPairs _
  simp_all

theorem maps_ofPairs (pairs : List (String × Value)) : (ofPairs pairs).Maps pairs where
  unique := (ofPairs pairs).distinct
  last name value := get?_ofPairs_eq_some pairs
  absent name := by rw [get?_eq_none_iff, mem_names_ofPairs]
  order := names_ofPairs pairs
  listed := (ofPairs pairs).mem_fields_iff
  size := by
    have distinct : (ofPairs pairs).names.Nodup := (ofPairs pairs).distinct
    have names : (ofPairs pairs).names.toFinset = (pairs.map Prod.fst).toFinset := by
      ext name
      rw [List.mem_toFinset, List.mem_toFinset, mem_names_ofPairs]
    rw [← names, List.toFinset_card_of_nodup distinct, length_names]
  rebuilt := ofPairs_self _

/-- A field that is set again stays where it is. -/
theorem set_fields_of_known {record : Record} {name : String} (known : name ∈ record.names)
    (value : Value) :
    (record.set name value).fields =
      record.fields.map fun pair => if pair.1 = name then (name, value) else pair :=
  setPair_known known record.distinct value

/-! ## Records with the same fields -/

/-- The records hold the same under every name; their fields may be in another order. -/
def HoldAlike (one two : Record) : Prop := ∀ name, one.get? name = two.get? name

theorem HoldAlike.apply {one two : Record} (alike : one.HoldAlike two) (step : RecordStep) :
    (step.apply one).HoldAlike (step.apply two) := by
  intro name
  cases step with
  | set other value => simp only [RecordStep.apply, get?_set, alike name]
  | ofPairs pairs => rfl
  | ofJson document =>
      cases document with
      | object members => rfl
      | null | bool | int | float | text | list => exact alike name

theorem HoldAlike.steps {one two : Record} (alike : one.HoldAlike two) (steps : List RecordStep) :
    (steps.foldl RecordStep.apply one).HoldAlike (steps.foldl RecordStep.apply two) := by
  induction steps generalizing one two with
  | nil => exact alike
  | cons step rest ih => exact ih (alike.apply step)

theorem get?_sets (record : Record) (pairs : List (String × Value)) (name : String) :
    ((RecordStep.sets pairs).foldl RecordStep.apply record).get? name =
      (pairs.reverse.lookup name).or (record.get? name) := by
  rw [RecordStep.sets, List.foldl_map]
  exact get?_foldl_set pairs record name

/-- It does not matter in which order different names are set. -/
theorem holdAlike_perm (before after : List RecordStep) {pairs others : List (String × Value)}
    (perm : pairs.Perm others) (distinct : (pairs.map Prod.fst).Nodup) :
    (RecordStep.run (before ++ RecordStep.sets pairs ++ after)).HoldAlike
      (RecordStep.run (before ++ RecordStep.sets others ++ after)) := by
  have reversed : pairs.reverse.Perm others.reverse :=
    (pairs.reverse_perm.trans perm).trans others.reverse_perm.symm
  have distinctReverse : (pairs.reverse.map Prod.fst).Nodup :=
    ((pairs.reverse_perm.map Prod.fst).nodup_iff).2 distinct
  have set : ((RecordStep.sets pairs).foldl RecordStep.apply (RecordStep.run before)).HoldAlike
      ((RecordStep.sets others).foldl RecordStep.apply (RecordStep.run before)) := by
    intro name
    rw [get?_sets, get?_sets, lookup_perm reversed distinctReverse]
  simpa only [RecordStep.run, List.foldl_append] using set.steps after

end Record

/-! ## Equality -/

namespace Value

def Definite (value : Value) : Prop := ∀ number, value = .float number → number.isNaN = false

instance (value : Value) : Decidable value.Definite :=
  match value with
  | float number => decidable_of_iff (number.isNaN = false)
      ⟨fun definite other same => by cases same; exact definite, fun definite => definite _ rfl⟩
  | text _ | int _ | bool _ | moment _ | null => isTrue fun _ same => by cases same

theorem same_self {value : Value} (definite : value.Definite) : value.same value = true := by
  cases value with
  | float number =>
      show number.same number = true
      rw [Binary64.same, Binary64.comparable, definite number rfl]
      exact decide_eq_true rfl
  | text | int | bool => exact decide_eq_true rfl
  | moment => exact decide_eq_true ⟨rfl, rfl⟩
  | null => rfl

theorem same_symm (one two : Value) : one.same two = two.same one := by
  cases one with
  | text left => cases two with | text right => exact decide_eq_decide.2 eq_comm | _ => rfl
  | int left => cases two with | int right => exact decide_eq_decide.2 eq_comm | _ => rfl
  | bool left => cases two with | bool right => exact decide_eq_decide.2 eq_comm | _ => rfl
  | null => cases two <;> rfl
  | float left =>
      cases two with
      | float right =>
          show left.same right = right.same left
          rw [Binary64.same, Binary64.same, Binary64.comparable, Binary64.comparable,
            Bool.and_comm (!left.isNaN), decide_eq_decide.2 eq_comm]
      | _ => rfl
  | moment left =>
      cases two with
      | moment right => exact decide_eq_decide.2 (and_congr eq_comm eq_comm)
      | _ => rfl

theorem same_trans {one two three : Value} (first : one.same two = true)
    (second : two.same three = true) : one.same three = true := by
  cases two with
  | text middle =>
      cases one with
      | text left => exact of_decide_eq_true first ▸ second
      | _ => cases first
  | int middle =>
      cases one with
      | int left => exact of_decide_eq_true first ▸ second
      | _ => cases first
  | bool middle =>
      cases one with
      | bool left => exact of_decide_eq_true first ▸ second
      | _ => cases first
  | null =>
      cases one with
      | null => exact second
      | _ => cases first
  | float middle =>
      cases one with
      | float left =>
          cases three with
          | float right =>
              have near : left.same middle = true := first
              have far : middle.same right = true := second
              show left.same right = true
              rw [Binary64.same, Binary64.comparable, Bool.and_eq_true, Bool.and_eq_true,
                decide_eq_true_iff] at near far ⊢
              exact ⟨⟨near.1.1, far.1.2⟩, near.2.trans far.2⟩
          | _ => cases second
      | _ => cases first
  | moment middle =>
      cases one with
      | moment left =>
          cases three with
          | moment right =>
              have near := of_decide_eq_true first
              have far := of_decide_eq_true second
              exact decide_eq_true ⟨near.1.trans far.1, near.2.trans far.2⟩
          | _ => cases second
      | _ => cases first

/-- Equality of values, but for what is not a number. -/
theorem same_equivalence :
    Equivalence fun one two : {value : Value // value.Definite} => one.1.same two.1 = true where
  refl one := same_self one.2
  symm {one two} same := (same_symm two.1 one.1).trans same
  trans := same_trans

end Value

namespace Record

def Definite (record : Record) : Prop := ∀ pair ∈ record.fields, pair.2.Definite

instance (record : Record) : Decidable record.Definite :=
  inferInstanceAs (Decidable (∀ pair ∈ record.fields, pair.2.Definite))

/-- Two records are equal if they have the same names and hold equal values under each. -/
theorem same_iff (one two : Record) :
    one.same two = true ↔ (∀ name, name ∈ one.names ↔ name ∈ two.names) ∧
      ∀ name left right, one.get? name = some left → two.get? name = some right →
        left.same right = true := by
  have checks : one.same two = true ↔ one.size = two.size ∧
      ∀ pair ∈ one.fields, ∃ value, two.get? pair.1 = some value ∧ pair.2.same value = true := by
    rw [same, Bool.and_eq_true, decide_eq_true_iff, List.all_eq_true]
    refine and_congr_right fun _ => forall_congr' fun pair => imp_congr_right fun _ => ?_
    cases two.get? pair.1 <;> simp
  rw [checks]
  constructor
  · rintro ⟨size, held⟩
    have within : one.names ⊆ two.names := by
      intro name member
      obtain ⟨pair, listed, rfl⟩ := List.mem_map.1 member
      obtain ⟨value, found, _⟩ := held pair listed
      exact List.mem_map.2 ⟨_, (two.mem_fields_iff (pair.1, value)).2 found, rfl⟩
    have few : two.names.length ≤ one.names.length := by
      rw [length_names, length_names, size]
    have perm : one.names.Perm two.names :=
      (List.subperm_of_subset one.distinct within).perm_of_length_le few
    refine ⟨fun name => perm.mem_iff, fun name left right foundLeft foundRight => ?_⟩
    obtain ⟨value, found, equal⟩ := held (name, left) ((one.mem_fields_iff _).2 foundLeft)
    rw [foundRight] at found
    exact Option.some.inj found ▸ equal
  · rintro ⟨names, equal⟩
    have perm : one.names.Perm two.names :=
      (List.perm_ext_iff_of_nodup one.distinct two.distinct).2 names
    refine ⟨by rw [← length_names, ← length_names, perm.length_eq], fun pair listed => ?_⟩
    have known : pair.1 ∈ two.names := (names pair.1).1 (List.mem_map.2 ⟨pair, listed, rfl⟩)
    obtain ⟨⟨name, value⟩, listedThere, called⟩ := List.mem_map.1 known
    have found : two.get? pair.1 = some value :=
      called ▸ (two.mem_fields_iff (name, value)).1 listedThere
    exact ⟨value, found, equal pair.1 _ _ ((one.mem_fields_iff pair).1 listed) found⟩

theorem mem_names_iff (record : Record) (name : String) :
    name ∈ record.names ↔ ∃ value, record.get? name = some value := by
  rw [← Option.ne_none_iff_exists', ne_eq, get?_eq_none_iff, not_not]

theorem HoldAlike.same_eq {one two : Record} (alike : one.HoldAlike two) (other : Record) :
    one.same other = two.same other ∧ other.same one = other.same two := by
  constructor <;> rw [Bool.eq_iff_iff, same_iff, same_iff] <;>
    simp only [mem_names_iff, alike _]

theorem same_equivalence :
    Equivalence fun one two : {record : Record // record.Definite} =>
      one.1.same two.1 = true where
  refl one := by
    refine (same_iff _ _).2 ⟨fun _ => .rfl, fun name left right foundLeft foundRight => ?_⟩
    rw [foundLeft] at foundRight
    cases foundRight
    exact Value.same_self (one.2 (name, left) ((one.1.mem_fields_iff _).2 foundLeft))
  symm {one two} equal := by
    obtain ⟨names, values⟩ := (same_iff _ _).1 equal
    refine (same_iff _ _).2 ⟨fun name => (names name).symm, fun name left right found there => ?_⟩
    rw [Value.same_symm]
    exact values name right left there found
  trans {one two three} first second := by
    obtain ⟨names, values⟩ := (same_iff _ _).1 first
    obtain ⟨namesToo, valuesToo⟩ := (same_iff _ _).1 second
    refine (same_iff _ _).2
      ⟨fun name => (names name).trans (namesToo name), fun name left right found there => ?_⟩
    have known : name ∈ two.1.names := (names name).1 ((mem_names_iff _ _).2 ⟨left, found⟩)
    obtain ⟨middle, between⟩ := (mem_names_iff _ _).1 known
    exact Value.same_trans (values name left middle found between)
      (valuesToo name middle right between there)

/-- **A record is an ordered map.**  Any steps come to a record in which each name stands once, in
the order of first mention, with the value of the last one; a field that is set again stays where it
is.  Equality looks at the names and the values under them alone, so that different names may be set
in any order, and it is an equivalence. -/
theorem is_ordered_map :
    (∀ steps, (RecordStep.run steps).Maps (RecordStep.history steps)) ∧
    (∀ (record : Record) (name : String) (value : Value), name ∈ record.names →
      (record.set name value).fields =
        record.fields.map fun pair => if pair.1 = name then (name, value) else pair) ∧
    (∀ one two : Record, one.same two = true ↔ (∀ name, name ∈ one.names ↔ name ∈ two.names) ∧
      ∀ name left right, one.get? name = some left → two.get? name = some right →
        left.same right = true) ∧
    (∀ (before after : List RecordStep) (pairs others : List (String × Value)),
      pairs.Perm others → (pairs.map Prod.fst).Nodup → ∀ other : Record,
        let one := RecordStep.run (before ++ RecordStep.sets pairs ++ after)
        let two := RecordStep.run (before ++ RecordStep.sets others ++ after)
        one.same other = two.same other ∧ other.same one = other.same two) ∧
    (Equivalence fun one two : {value : Value // value.Definite} => one.1.same two.1 = true) ∧
    Equivalence fun one two : {record : Record // record.Definite} =>
      one.1.same two.1 = true := by
  refine ⟨fun steps => ?_, fun record name value known => set_fields_of_known known value, same_iff,
    fun before after pairs others perm distinct =>
      (holdAlike_perm before after perm distinct).same_eq,
    Value.same_equivalence, same_equivalence⟩
  rw [RecordStep.run_eq]
  exact maps_ofPairs _

theorem is_ordered_map_two_fields :
    let document := Json.object [("a", .int 1), ("b", .null), ("a", .text "z")]
    let record := RecordStep.run [.set "old" .null, .ofJson document]
    record.names = ["a", "b"] ∧ record.get? "a" = some (.text "z") ∧
    (record.set "a" (.int 2)).fields = [("a", .int 2), ("b", .null)] ∧
    (RecordStep.run [.set "a" (.int 1), .set "b" .null, .set "a" .null]).same
      (RecordStep.run [.set "b" .null, .set "a" (.int 1), .set "a" .null]) = true := by
  intro document record
  obtain ⟨maps, replaced, _, permuted, _⟩ := is_ordered_map
  have known : "a" ∈ record.names := by decide
  have swapped : [("a", Value.int 1), ("b", .null)].Perm [("b", .null), ("a", .int 1)] :=
    .swap _ _ _
  have alike := (permuted [] [.set "a" .null] _ _ swapped (by decide)
    (RecordStep.run [.set "b" .null, .set "a" (.int 1), .set "a" .null])).1
  have held := maps [.set "old" .null, .ofJson document]
  have lastOne := (held.last "a" (.text "z")).2 ⟨[("a", .int 1), ("b", .null)], [], rfl, by decide⟩
  exact ⟨held.order.trans (by decide), lastOne,
    (replaced record "a" (.int 2) known).trans (by decide), alike.trans (by decide)⟩

end Record

end Sluice
