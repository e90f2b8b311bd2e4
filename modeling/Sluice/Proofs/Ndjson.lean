import Mathlib.Data.List.Forall2
import Mathlib.Data.List.Perm.Basic
import Sluice.Ndjson
import Sluice.Proofs.Json.Reading
import Sluice.Proofs.Json.Writing
import Sluice.Proofs.Outcome
import Sluice.Proofs.Record

/-!
# Records survive their lines

Records are written as lines of JSON, one line each, and what is read from these lines are the same
records.  Only the order of their fields may have changed, as the members of an object are sorted.
-/

set_option autoImplicit false

namespace Sluice

/-! ## Lists of named values -/

theorem setSorted_perm {α : Type} {name : String} {pairs : List (String × α)}
    (fresh : name ∉ pairs.map Prod.fst) (value : α) :
    (setSorted name value pairs).Perm ((name, value) :: pairs) := by
  induction pairs with
  | nil => exact .refl _
  | cons pair rest ih =>
      obtain ⟨key, old⟩ := pair
      simp only [List.map_cons, List.mem_cons, not_or] at fresh
      obtain ⟨differs, freshRest⟩ := fresh
      rw [setSorted, if_neg (Ne.symm differs)]
      split
      · exact .refl _
      · exact ((ih freshRest).cons _).trans (.swap _ _ _)

/-- Sorting pairs of different names only reorders them. -/
theorem foldl_setSorted_perm {α : Type} (pairs base : List (String × α))
    (distinct : ((base ++ pairs).map Prod.fst).Nodup) :
    (pairs.foldl (fun sorted pair => setSorted pair.1 pair.2 sorted) base).Perm
      (base ++ pairs) := by
  induction pairs generalizing base with
  | nil => simp
  | cons pair rest ih =>
      have fresh : pair.1 ∉ base.map Prod.fst := by
        intro member
        rw [List.map_append, List.map_cons, List.nodup_append] at distinct
        exact distinct.2.2 _ member _ (List.mem_cons_self ..) rfl
      have grown := setSorted_perm fresh pair.2
      have middle : (setSorted pair.1 pair.2 base ++ rest).Perm (base ++ pair :: rest) :=
        (grown.append_right rest).trans List.perm_middle.symm
      have distinctNext : ((setSorted pair.1 pair.2 base ++ rest).map Prod.fst).Nodup :=
        (middle.map Prod.fst).nodup_iff.2 distinct
      exact (ih _ distinctNext).trans middle

/-! ## Records as members -/

/-- The values that JSON has a form of their own for, floats aside. -/
inductive Value.Plain : Value → Prop where
  | text (text : String) : Plain (.text text)
  | int (number : Int64) : Plain (.int number)
  | bool (truth : Bool) : Plain (.bool truth)
  | null : Plain .null

instance (value : Value) : Decidable value.Plain :=
  match value with
  | .text text => .isTrue (.text text)
  | .int number => .isTrue (.int number)
  | .bool truth => .isTrue (.bool truth)
  | .null => .isTrue .null
  | .float _ => .isFalse nofun
  | .moment _ => .isFalse nofun

theorem Value.Plain.scalar {value : Value} (plain : value.Plain) : value.toJson.IsScalar := by
  cases plain with
  | text text => exact .text text
  | int number => exact .int number
  | bool truth => exact .bool truth
  | null => exact .null

theorem Value.Plain.ofJson_toJson {value : Value} (plain : value.Plain) :
    Value.ofJson value.toJson = value := by
  cases plain with
  | int number =>
      have least := number.le_toInt
      have greatest := number.toInt_lt
      have fits : fitsInt64 number.toInt = true :=
        decide_eq_true ⟨least, Int.le_of_lt_add_one greatest⟩
      simp [toJson, ofJson, fits]
  | text text => rfl
  | bool truth => rfl
  | null => rfl

theorem Value.Plain.same_self {value : Value} (plain : value.Plain) : value.same value = true := by
  cases plain with
  | text text => exact decide_eq_true (Eq.refl text)
  | int number => exact decide_eq_true (Eq.refl number)
  | bool truth => exact decide_eq_true (Eq.refl truth)
  | null => rfl

namespace Record

def Plain (record : Record) : Prop := ∀ pair ∈ record.fields, pair.2.Plain

instance (record : Record) : Decidable record.Plain :=
  inferInstanceAs (Decidable (∀ pair ∈ record.fields, pair.2.Plain))

/-- Records with the same fields in another order are the same. -/
theorem same_of_perm {record found : Record} (plain : record.Plain)
    (perm : found.fields.Perm record.fields) : record.same found = true := by
  have sizes : record.size = found.size := perm.length_eq.symm
  simp only [same, sizes, decide_true, Bool.true_and, List.all_eq_true]
  intro pair member
  have held : found.get? pair.1 = some pair.2 :=
    lookup_of_mem found.distinct (perm.mem_iff.2 member)
  rw [held]
  exact (plain pair member).same_self

/-- What a written record is read as: the record with its fields sorted. -/
theorem read_toJson {record : Record} (plain : record.Plain) :
    ∃ found, (Json.read? record.toJson.chars).bind ofJson? = some found ∧
      found.fields.Perm record.fields := by
  let members : Members := record.fields.map fun pair => (pair.1, pair.2.toJson)
  have names : members.map Prod.fst = record.fields.map Prod.fst := by
    simp [members, Function.comp_def]
  have scalars : ∀ member ∈ members, member.2.IsScalar := by
    intro member listed
    obtain ⟨pair, held, rfl⟩ := List.mem_map.1 listed
    exact (plain pair held).scalar
  have reads := Json.read?_object members scalars
  let sorted := members.foldl (fun sorted pair => setSorted pair.1 pair.2 sorted) []
  have perm : sorted.Perm members :=
    foldl_setSorted_perm members [] (by simpa [names] using record.distinct)
  have back : members.map (fun pair => (pair.1, Value.ofJson pair.2)) = record.fields := by
    have values : ∀ pair ∈ record.fields, (pair.1, Value.ofJson pair.2.toJson) = pair := by
      intro pair held
      rw [(plain pair held).ofJson_toJson]
    simpa [members, Function.comp_def] using List.map_congr_left values
  have fieldsPerm : (sorted.map fun pair => (pair.1, Value.ofJson pair.2)).Perm record.fields :=
    back ▸ perm.map fun pair => (pair.1, Value.ofJson pair.2)
  have distinct : ((sorted.map fun pair => (pair.1, Value.ofJson pair.2)).map Prod.fst).Nodup :=
    (fieldsPerm.map Prod.fst).nodup_iff.2 record.distinct
  refine ⟨ofMembers sorted, ?_, ?_⟩
  · show (Json.read? (Json.object members).chars).bind ofJson? = _
    rw [reads]
    rfl
  · rw [ofMembers, ofPairs_fields _ distinct]
    exact fieldsPerm

end Record

/-! ## Lines -/

namespace Ndjson

def Reordered (record found : Record) : Prop :=
  found.fields.Perm record.fields ∧ record.same found = true

theorem write_eq_onLines (records : List Record) :
    write records = onLines (records.map fun record => record.toJson.chars) := by
  rw [write, onLines, List.flatMap_map]
  rfl

theorem readLine_toJson (number : Nat) {record : Record} (plain : record.Plain) :
    ∃ found, readLine number record.toJson.chars = .ok found ∧ Reordered record found := by
  obtain ⟨found, reads, perm⟩ := record.read_toJson plain
  obtain ⟨json, text, object⟩ := Option.bind_eq_some_iff.1 reads
  refine ⟨found, ?_, perm, Record.same_of_perm plain perm⟩
  simp [readLine, text, object]

theorem not_blank_toJson (record : Record) : record.toJson.chars.all isBlank = false := by
  have brace : isBlank '\x7b' = false := by decide
  simp [Record.toJson, Json.chars, brace]

theorem readLines_toJson (number : Nat) {records : List Record}
    (plain : ∀ record ∈ records, record.Plain) :
    ∃ found, readLines none number
        ((records.map fun record => record.toJson.chars).map .ok) = .ok found ∧
      List.Forall₂ Reordered records found := by
  induction records generalizing number with
  | nil => exact ⟨[], rfl, .nil⟩
  | cons record rest ih =>
      obtain ⟨first, readsFirst, same⟩ :=
        readLine_toJson number (plain record (List.mem_cons_self ..))
      obtain ⟨others, readsRest, sameRest⟩ := ih (number + 1) fun later member =>
        plain later (List.mem_cons_of_mem _ member)
      refine ⟨first :: others, ?_, .cons same sameRest⟩
      rw [List.map_cons, List.map_cons, readLines, not_blank_toJson, if_neg Bool.false_ne_true,
        readsFirst, readsRest]
      rfl

theorem read_write {records : List Record} (plain : ∀ record ∈ records, record.Plain) :
    ∃ found, read ⟨Utf8.encode (write records), none⟩ = .ok found ∧
      List.Forall₂ Reordered records found := by
  have lines : ∀ text ∈ records.map (fun record => record.toJson.chars), IsLine text := by
    intro text member
    obtain ⟨record, _, rfl⟩ := List.mem_map.1 member
    exact record.printable_toJson.isLine
  obtain ⟨found, reads, same⟩ := readLines_toJson 1 plain
  refine ⟨found, ?_, same⟩
  rw [read, write_eq_onLines, Delivery.lines_onLines lines]
  exact reads

/-! ## Batches -/

theorem foldl_add (batches : List (List Record)) (writer : Writer) :
    batches.foldl Writer.add writer =
      ⟨writer.text ++ write batches.flatten, writer.written + batches.flatten.length⟩ := by
  induction batches generalizing writer with
  | nil => simp [write]
  | cons batch rest ih =>
      rw [List.foldl_cons, ih, Writer.add]
      simp [write, Nat.add_assoc]

/-- Each record has a line of its own: its JSON text, in which no line ends. -/
def OneLineEach (records : List Record) (text : List Char) : Prop :=
  ∃ lines, text = onLines lines ∧
    List.Forall₂ (fun record line => line = record.toJson.chars ∧ '\n' ∉ line) records lines

theorem oneLineEach_write (records : List Record) : OneLineEach records (write records) := by
  refine ⟨records.map fun record => record.toJson.chars, write_eq_onLines records, ?_⟩
  rw [List.forall₂_map_right_iff, List.forall₂_same]
  intro record _
  exact ⟨rfl, record.printable_toJson.isLine.1⟩

/-- However records are cut into batches, the writer counts them as it goes, gives each of them one
line, and from these lines the same records are read in the same order. -/
theorem write_read_records (batches : List (List Record))
    (plain : ∀ batch ∈ batches, ∀ record ∈ batch, record.Plain) :
    let written (some : List (List Record)) := some.foldl Writer.add .empty
    (∀ earlier later, batches = earlier ++ later →
        (written earlier).written = earlier.flatten.length) ∧
      OneLineEach batches.flatten (written batches).text ∧
      ∃ found, read ⟨Utf8.encode (written batches).text, none⟩ = .ok found ∧
        List.Forall₂ Reordered batches.flatten found := by
  intro written
  have text : (written batches).text = write batches.flatten := by
    simp [written, foldl_add, Writer.empty]
  refine ⟨?_, ?_, ?_⟩
  · intro earlier later _
    simp [written, foldl_add, Writer.empty]
  · rw [text]
    exact oneLineEach_write _
  · rw [text]
    refine read_write ?_
    intro record member
    obtain ⟨batch, listed, held⟩ := List.mem_flatten.1 member
    exact plain batch listed record held

/-- Names and texts with everything that is escaped, the least integer, and a batch of nothing. -/
theorem write_read_records_escaped :
    let first := Record.ofPairs [("z\n\r", .text "\"\\ \u0001\u2028"), ("", .int Int64.minValue)]
    let second := Record.ofPairs [("b", .bool true), ("a", .null)]
    let batches := [[first], [], [second]]
    (∀ batch ∈ batches, ∀ record ∈ batch, record.Plain) ∧
      let text := (batches.foldl Writer.add .empty).text
      text.count '\n' = 2 ∧ ∃ found, read ⟨Utf8.encode text, none⟩ = .ok found ∧
        List.Forall₂ Reordered [first, second] found := by
  intro first second batches
  have plain : ∀ batch ∈ batches, ∀ record ∈ batch, record.Plain := by decide
  obtain ⟨_, _, found, reads, same⟩ := write_read_records batches plain
  exact ⟨plain, by decide +kernel, found, reads, same⟩

end Ndjson

end Sluice
