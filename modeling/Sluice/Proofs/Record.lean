import Mathlib.Data.List.Induction
import Mathlib.Data.List.Perm.Subperm
import Sluice.Record

/-!
# Looking fields up

What is found under a name after a field has been set, and in a record of pairs with different
names.  The order of the pairs does not matter for that, and names that are set in another order
hold the same.
-/

set_option autoImplicit false

namespace Sluice

theorem lookup_setPair {α : Type} (name other : String) (value : α) (pairs : List (String × α)) :
    (setPair name value pairs).lookup other =
      if other = name then some value else pairs.lookup other := by
  induction pairs with
  | nil =>
      by_cases same : other = name
      · simp [setPair, same]
      · simp [setPair, List.lookup_cons, beq_eq_false_iff_ne.2 same, same]
  | cons first rest ih =>
      obtain ⟨key, old⟩ := first
      by_cases hit : key = name
      · subst hit
        by_cases same : other = key
        · simp [setPair, same]
        · simp [setPair, List.lookup_cons, beq_eq_false_iff_ne.2 same, same]
      · by_cases same : other = key
        · subst same
          simp [setPair, hit]
        · simp [setPair, hit, List.lookup_cons, beq_eq_false_iff_ne.2 same, ih]

theorem setPair_fresh {α : Type} {name : String} {pairs : List (String × α)}
    (fresh : name ∉ pairs.map Prod.fst) (value : α) :
    setPair name value pairs = pairs ++ [(name, value)] := by
  induction pairs with
  | nil => rfl
  | cons pair rest ih =>
      simp only [List.map_cons, List.mem_cons, not_or] at fresh
      obtain ⟨differs, freshRest⟩ := fresh
      simp [setPair, Ne.symm differs, ih freshRest]

theorem lookup_of_mem {α : Type} {pairs : List (String × α)} (distinct : (pairs.map Prod.fst).Nodup)
    {name : String} {value : α} (member : (name, value) ∈ pairs) :
    pairs.lookup name = some value := by
  induction pairs with
  | nil => cases member
  | cons pair rest ih =>
      obtain ⟨key, old⟩ := pair
      obtain ⟨fresh, distinctRest⟩ := List.nodup_cons.1 distinct
      rcases List.mem_cons.1 member with same | later
      · cases same
        simp
      · have differs : name ≠ key := by
          rintro rfl
          exact fresh (List.mem_map.2 ⟨_, later, rfl⟩)
        simp [List.lookup_cons, beq_eq_false_iff_ne.2 differs, ih distinctRest later]

theorem mem_of_lookup {α : Type} {pairs : List (String × α)} {name : String} {value : α}
    (found : pairs.lookup name = some value) : (name, value) ∈ pairs := by
  obtain ⟨before, after, rfl, _⟩ := List.lookup_eq_some_iff.1 found
  simp

theorem lookup_perm {α : Type} {pairs others : List (String × α)} (perm : pairs.Perm others)
    (distinct : (pairs.map Prod.fst).Nodup) (name : String) :
    pairs.lookup name = others.lookup name := by
  have distinctOthers := (perm.map Prod.fst).nodup_iff.1 distinct
  refine Option.ext fun value => ⟨fun found => ?_, fun found => ?_⟩
  · exact lookup_of_mem distinctOthers (perm.mem_iff.1 (mem_of_lookup found))
  · exact lookup_of_mem distinct (perm.mem_iff.2 (mem_of_lookup found))

/-- But for the order, a name that is set comes before all others. -/
theorem setPair_perm_cons {α : Type} (name : String) (value : α) {pairs : List (String × α)}
    (distinct : (pairs.map Prod.fst).Nodup) :
    (setPair name value pairs).Perm ((name, value) :: pairs.filter (·.1 ≠ name)) := by
  induction pairs with
  | nil => exact .refl _
  | cons pair rest ih =>
      obtain ⟨key, old⟩ := pair
      obtain ⟨fresh, distinctRest⟩ := List.nodup_cons.1 distinct
      by_cases hit : key = name
      · subst hit
        have others : rest.filter (·.1 ≠ key) = rest := by
          refine List.filter_eq_self.2 fun other member => decide_eq_true fun same => ?_
          exact fresh (List.mem_map.2 ⟨other, member, same⟩)
        rw [setPair, if_pos rfl, List.filter_cons_of_neg (by simp), others]
      · rw [setPair, if_neg hit, List.filter_cons_of_pos (by simpa using hit)]
        exact ((ih distinctRest).cons _).trans (.swap _ _ _)

theorem setPair_perm {α : Type} {pairs others : List (String × α)} (perm : pairs.Perm others)
    (distinct : (pairs.map Prod.fst).Nodup) (name : String) (value : α) :
    (setPair name value pairs).Perm (setPair name value others) :=
  ((setPair_perm_cons name value distinct).trans ((perm.filter _).cons _)).trans
    (setPair_perm_cons name value ((perm.map Prod.fst).nodup_iff.1 distinct)).symm

theorem setPair_swap {α : Type} {first second : String} (apart : first ≠ second) (one two : α)
    (pairs : List (String × α)) :
    (setPair second two (setPair first one pairs)).Perm
      (setPair first one (setPair second two pairs)) := by
  induction pairs with
  | nil =>
      simp only [setPair, if_neg apart, if_neg apart.symm]
      exact .swap _ _ _
  | cons pair rest ih =>
      obtain ⟨key, old⟩ := pair
      by_cases hitFirst : key = first
      · subst hitFirst
        simp [setPair, apart]
      · by_cases hitSecond : key = second
        · subst hitSecond
          simp [setPair, apart.symm]
        · simp [setPair, hitFirst, hitSecond, ih]

theorem Record.ofPairs_fields (pairs : List (String × Value))
    (distinct : (pairs.map Prod.fst).Nodup) : (ofPairs pairs).fields = pairs := by
  suffices grows : ∀ base : Record, ((base.fields ++ pairs).map Prod.fst).Nodup →
      (pairs.foldl (fun r pair => r.set pair.1 pair.2) base).fields = base.fields ++ pairs from
    grows .empty distinct
  clear distinct
  induction pairs with
  | nil => simp
  | cons pair rest ih =>
      intro base distinct
      have fresh : pair.1 ∉ base.fields.map Prod.fst := by
        intro member
        rw [List.map_append, List.map_cons, List.nodup_append] at distinct
        exact distinct.2.2 _ member _ (List.mem_cons_self ..) rfl
      have fields : (base.set pair.1 pair.2).fields = base.fields ++ [pair] :=
        setPair_fresh fresh pair.2
      have following := ih (base.set pair.1 pair.2) (by simpa [fields] using distinct)
      simpa [fields] using following

/-! ## Records of pairs with any names -/

theorem keys_setPair {α : Type} {name : String} {pairs : List (String × α)}
    (known : name ∈ pairs.map Prod.fst) (value : α) :
    (setPair name value pairs).map Prod.fst = pairs.map Prod.fst := by
  induction pairs with
  | nil => cases known
  | cons pair rest ih =>
      by_cases hit : pair.1 = name
      · simp [setPair, hit]
      · have later : name ∈ rest.map Prod.fst := by
          simpa [Ne.symm hit] using known
        simp [setPair, hit, ih later]

theorem setPair_known {α : Type} {name : String} {pairs : List (String × α)}
    (known : name ∈ pairs.map Prod.fst) (distinct : (pairs.map Prod.fst).Nodup) (value : α) :
    setPair name value pairs =
      pairs.map fun pair => if pair.1 = name then (name, value) else pair := by
  induction pairs with
  | nil => cases known
  | cons pair rest ih =>
      obtain ⟨key, old⟩ := pair
      obtain ⟨fresh, distinctRest⟩ := List.nodup_cons.1 distinct
      by_cases hit : key = name
      · subst hit
        have others :
            rest.map (fun pair => if pair.1 = key then (key, value) else pair) = rest := by
          nth_rewrite 2 [← List.map_id rest]
          refine List.map_congr_left fun other member => if_neg ?_
          rintro rfl
          exact fresh (List.mem_map.2 ⟨other, member, rfl⟩)
        simp [setPair, others]
      · have later : name ∈ rest.map Prod.fst := by
          simpa [Ne.symm hit] using known
        simp [setPair, hit, ih later distinctRest]

/-- Of equal names the first one counts. -/
theorem eraseDups_concat (names : List String) (name : String) :
    (names ++ [name]).eraseDups =
      if name ∈ names then names.eraseDups else names.eraseDups ++ [name] := by
  rw [List.eraseDups_append]
  by_cases listed : name ∈ names
  · simp [List.removeAll, listed]
  · simp [List.removeAll, listed, List.eraseDups_cons]

def ComesFirst {α : Type} (pairs : List (String × α)) (first second : String) : Prop :=
  ∃ before after value, pairs = before ++ (first, value) :: after ∧ first ≠ second ∧
    second ∉ before.map Prod.fst

theorem ComesFirst.concat {α : Type} {pairs : List (String × α)} {first second : String}
    (comes : ComesFirst pairs first second) (pair : String × α) :
    ComesFirst (pairs ++ [pair]) first second := by
  obtain ⟨before, after, value, rfl, apart, fresh⟩ := comes
  exact ⟨before, after ++ [pair], value, by simp, apart, fresh⟩

theorem comesFirst_of_fresh {α : Type} {pairs : List (String × α)} {first second : String}
    (member : first ∈ pairs.map Prod.fst) (fresh : second ∉ pairs.map Prod.fst) :
    ComesFirst pairs first second := by
  obtain ⟨⟨_, value⟩, held, rfl⟩ := List.mem_map.1 member
  obtain ⟨before, after, rfl⟩ := List.append_of_mem held
  simp only [List.map_append, List.map_cons, List.mem_append, List.mem_cons, not_or] at fresh
  exact ⟨before, after, value, rfl, Ne.symm fresh.2.1, fresh.1⟩

namespace Record

variable (pairs : List (String × Value))

def names (record : Record) : List String := record.fields.map Prod.fst

theorem get?_set (record : Record) (name other : String) (value : Value) :
    (record.set name value).get? other = if other = name then some value else record.get? other :=
  lookup_setPair name other value record.fields

theorem names_set (record : Record) (name : String) (value : Value) :
    (record.set name value).names =
      if name ∈ record.names then record.names else record.names ++ [name] := by
  by_cases known : name ∈ record.names
  · rw [if_pos known]
    exact keys_setPair known value
  · rw [if_neg known]
    exact (congrArg (List.map Prod.fst) (setPair_fresh known value)).trans List.map_append

theorem ofPairs_concat (pair : String × Value) :
    ofPairs (pairs ++ [pair]) = (ofPairs pairs).set pair.1 pair.2 := by
  simp [ofPairs, List.foldl_append]

theorem get?_foldl_set (record : Record) (name : String) :
    (pairs.foldl (fun record pair => record.set pair.1 pair.2) record).get? name =
      (pairs.reverse.lookup name).or (record.get? name) := by
  induction pairs using List.reverseRecOn with
  | nil => simp
  | append_singleton before pair ih =>
      obtain ⟨key, value⟩ := pair
      rw [List.foldl_append, List.foldl_cons, List.foldl_nil, get?_set, List.reverse_append, ih]
      by_cases same : name = key
      · simp [same]
      · simp [List.lookup_cons, beq_eq_false_iff_ne.2 same, same]

/-- What comes last under a name is what the record holds. -/
theorem get?_ofPairs (name : String) : (ofPairs pairs).get? name = pairs.reverse.lookup name := by
  rw [ofPairs, get?_foldl_set]
  exact Option.or_none

theorem get?_ofPairs_eq_some {name : String} {value : Value} :
    (ofPairs pairs).get? name = some value ↔ ∃ before after,
      pairs = before ++ (name, value) :: after ∧ name ∉ after.map Prod.fst := by
  rw [get?_ofPairs, List.lookup_eq_some_iff]
  constructor
  · rintro ⟨before, after, whole, others⟩
    refine ⟨after.reverse, before.reverse, ?_, fun member => ?_⟩
    · rw [← List.reverse_reverse pairs, whole]
      simp
    · obtain ⟨pair, among, rfl⟩ := List.mem_map.1 member
      simpa using others pair (List.mem_reverse.1 among)
  · rintro ⟨before, after, rfl, fresh⟩
    refine ⟨after.reverse, before.reverse, by simp, fun pair member => ?_⟩
    rw [bne_iff_ne]
    rintro rfl
    exact fresh (List.mem_map_of_mem (List.mem_reverse.1 member))

theorem mem_names_ofPairs (name : String) :
    name ∈ (ofPairs pairs).names ↔ name ∈ pairs.map Prod.fst := by
  induction pairs using List.reverseRecOn with
  | nil => rfl
  | append_singleton before pair ih =>
      have listed : name ∈ (before ++ [pair]).map Prod.fst ↔
          name = pair.1 ∨ name ∈ before.map Prod.fst := by
        simp [or_comm]
      rw [ofPairs_concat, listed, ← ih]
      exact mem_keys_setPair pair.1 pair.2 (ofPairs before).fields name

theorem names_ofPairs : (ofPairs pairs).names = (pairs.map Prod.fst).eraseDups := by
  induction pairs using List.reverseRecOn with
  | nil => rfl
  | append_singleton before pair ih =>
      rw [ofPairs_concat, names_set, List.map_append, List.map_singleton, eraseDups_concat, ih]
      simp only [List.mem_eraseDups]

/-- The names of a record stand in the order in which they first come up. -/
theorem names_ofPairs_ordered : (ofPairs pairs).names.Pairwise (ComesFirst pairs) := by
  induction pairs using List.reverseRecOn with
  | nil => exact .nil
  | append_singleton before pair ih =>
      have kept := ih.imp fun comes => comes.concat pair
      rw [ofPairs_concat, names_set]
      split
      · exact kept
      · next fresh =>
          refine List.pairwise_append.2 ⟨kept, List.pairwise_singleton .., ?_⟩
          intro first member second isNew
          obtain rfl := List.mem_singleton.1 isNew
          rw [mem_names_ofPairs] at member fresh
          exact (comesFirst_of_fresh member fresh).concat pair

/-- There are as many fields as pairs if no name comes up twice, and else fewer. -/
theorem size_ofPairs_eq_iff :
    (ofPairs pairs).size = pairs.length ↔ (pairs.map Prod.fst).Nodup := by
  constructor
  · intro same
    have within : (ofPairs pairs).names ⊆ pairs.map Prod.fst :=
      fun name member => (mem_names_ofPairs pairs name).1 member
    have few : (pairs.map Prod.fst).length ≤ (ofPairs pairs).names.length := by
      rw [List.length_map, ← same, names, List.length_map]
      exact Nat.le_refl _
    have perm := (List.subperm_of_subset (ofPairs pairs).distinct within).perm_of_length_le few
    exact perm.nodup_iff.1 (ofPairs pairs).distinct
  · intro distinct
    rw [size, ofPairs_fields pairs distinct]

end Record

end Sluice
