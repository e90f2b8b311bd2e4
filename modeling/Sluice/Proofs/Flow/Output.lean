import Sluice.Flow.Output

/-!
# What comes to an output

Records that are written one after the other, each on a port, are found there in order.
-/

set_option autoImplicit false

namespace Sluice

theorem foldl_count_succ (ports : List (String × List Record)) (count : Nat) :
    ports.foldl (fun total held => total + held.2.length) (count + 1) =
      ports.foldl (fun total held => total + held.2.length) count + 1 := by
  induction ports generalizing count with
  | nil => rfl
  | cons first rest ih =>
      rw [List.foldl_cons, List.foldl_cons, ← ih, Nat.add_right_comm]

theorem foldl_count_addToPort (port : String) (record : Record)
    (ports : List (String × List Record)) (count : Nat) :
    (addToPort port [record] ports).foldl (fun total held => total + held.2.length) count =
      ports.foldl (fun total held => total + held.2.length) count + 1 := by
  induction ports generalizing count with
  | nil => rfl
  | cons first rest ih =>
      obtain ⟨name, held⟩ := first
      rw [addToPort]
      split
      · rw [List.foldl_cons, List.foldl_cons, List.length_append, List.length_singleton,
          ← Nat.add_assoc, foldl_count_succ]
      · rw [List.foldl_cons, List.foldl_cons, ih]

structure Output.Gains (routed : List (Record × String)) (before after : Output) : Prop where
  closes : after.closes = before.closes
  count : after.recordCount = before.recordCount + routed.length
  records : ∀ port, after.records port =
    before.records port ++ (routed.filter (·.2 = port)).map Prod.fst

theorem Output.Gains.cons {record : Record} {port : String} {routed : List (Record × String)}
    {before after : Output}
    (rest : Gains routed { before with
      recordPorts := addToPort port [record] before.recordPorts } after) :
    Gains ((record, port) :: routed) before after where
  closes := rest.closes
  count := by
    have one := foldl_count_addToPort port record before.recordPorts 0
    rw [rest.count, recordCount, one, ← recordCount, List.length_cons]
    omega
  records other := by
    rw [rest.records, Output.records, lookup_addToPort, ← Output.records, List.filter_cons]
    by_cases same : other = port
    · simp [same]
    · simp [same, Ne.symm same]

theorem Output.Gains.nothing (output : Output) : Gains [] output output where
  closes := rfl
  count := rfl
  records port := by simp

theorem Output.Gains.append {first second : List (Record × String)} {before middle after : Output}
    (one : Gains first before middle) (two : Gains second middle after) :
    Gains (first ++ second) before after where
  closes := two.closes.trans one.closes
  count := by
    rw [two.count, one.count, List.length_append]
    omega
  records port := by
    rw [two.records, one.records, List.filter_append, List.map_append, List.append_assoc]

theorem Output.Gains.onPort {records : List Record} {port : String} {before after : Output}
    (gains : Gains (records.map fun record => (record, port)) before after) :
    after.records port = before.records port ++ records := by
  rw [gains.records]
  simp [List.filter_map, Function.comp_def]

end Sluice
