import Sluice.Value

/-!
# Records

A record is a list of named values in which no name occurs twice.  Setting a field that is there
replaces its value where it stands, and a new field comes last.  Two records are the same when they
hold the same values under the same names, in whatever order.
-/

set_option autoImplicit false

namespace Sluice

/-- Replaces the value of a name where it stands, or adds the name at the end. -/
def setPair {α : Type} (name : String) (value : α) : List (String × α) → List (String × α)
  | [] => [(name, value)]
  | (key, old) :: rest =>
    if key = name then (key, value) :: rest else (key, old) :: setPair name value rest

theorem mem_keys_setPair {α : Type} (name : String) (value : α) (pairs : List (String × α))
    (key : String) :
    key ∈ (setPair name value pairs).map Prod.fst ↔ key = name ∨ key ∈ pairs.map Prod.fst := by
  induction pairs with
  | nil => simp [setPair]
  | cons pair rest ih =>
    obtain ⟨first, old⟩ := pair
    by_cases same : first = name
    · subst same; simp [setPair]
    · simp only [setPair, if_neg same, List.map_cons, List.mem_cons, ih]
      constructor
      · rintro (h | h | h) <;> simp [h]
      · rintro (h | h | h) <;> simp [h]

theorem nodup_setPair {α : Type} (name : String) (value : α) (pairs : List (String × α))
    (distinct : (pairs.map Prod.fst).Nodup) : ((setPair name value pairs).map Prod.fst).Nodup := by
  induction pairs with
  | nil => simp [setPair]
  | cons pair rest ih =>
    obtain ⟨first, old⟩ := pair
    simp only [List.map_cons, List.nodup_cons] at distinct
    by_cases same : first = name
    · subst same
      simp only [setPair, if_true, List.map_cons, List.nodup_cons]
      exact distinct
    · simp only [setPair, if_neg same, List.map_cons, List.nodup_cons]
      refine ⟨fun found => ?_, ih distinct.2⟩
      rcases (mem_keys_setPair name value rest first).1 found with h | h
      · exact same h
      · exact distinct.1 h

structure Record where
  fields : List (String × Value)
  distinct : (fields.map Prod.fst).Nodup

namespace Record

instance : DecidableEq Record := fun a b =>
  decidable_of_iff (a.fields = b.fields) ⟨fun h => by cases a; cases b; simp_all, fun h => h ▸ rfl⟩

def empty : Record := ⟨[], by simp⟩

instance : Inhabited Record := ⟨empty⟩

def get? (r : Record) (name : String) : Option Value := r.fields.lookup name

/-- The value of a field; a field that is not there is null. -/
def getOrNull (r : Record) (name : String) : Value := (r.get? name).getD .null

def set (r : Record) (name : String) (value : Value) : Record :=
  ⟨setPair name value r.fields, nodup_setPair name value r.fields r.distinct⟩

def ofPairs (pairs : List (String × Value)) : Record :=
  pairs.foldl (fun r pair => r.set pair.1 pair.2) empty

def contains (r : Record) (name : String) : Bool := (r.get? name).isSome

def size (r : Record) : Nat := r.fields.length

def isEmpty (r : Record) : Bool := r.fields.isEmpty

/-- The same names with the same values, in whatever order. -/
def same (a b : Record) : Bool :=
  decide (a.size = b.size) && a.fields.all fun pair =>
    match b.get? pair.1 with
    | some value => pair.2.same value
    | none => false

end Record

end Sluice
