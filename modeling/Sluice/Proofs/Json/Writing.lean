import Sluice.Exchange
import Sluice.Proofs.Text.Lines

/-!
# Written JSON stays on its line

Compact JSON text holds no control characters: those of texts are escaped, and numbers have none.
-/

set_option autoImplicit false

namespace Sluice

def Printable (text : List Char) : Prop := ∀ c ∈ text, 0x20 ≤ c.toNat

instance (text : List Char) : Decidable (Printable text) :=
  List.decidableBAll _ _

namespace Printable

theorem nil : Printable [] := by simp [Printable]

theorem cons {c : Char} {text : List Char} (first : 0x20 ≤ c.toNat) (rest : Printable text) :
    Printable (c :: text) := by
  simpa [Printable] using ⟨first, rest⟩

theorem append {first second : List Char} (left : Printable first) (right : Printable second) :
    Printable (first ++ second) := by
  intro c member
  rcases List.mem_append.1 member with member | member
  · exact left c member
  · exact right c member

theorem subset {part text : List Char} (printable : Printable text) (within : part ⊆ text) :
    Printable part := fun c member => printable c (within member)

theorem isLine {text : List Char} (printable : Printable text) : IsLine text := by
  have least : ∀ c : Char, c.toNat < 0x20 → c ∉ text := by
    intro c control member
    have large := printable c member
    omega
  exact ⟨least '\n' (by decide), least '\r' (by decide)⟩

theorem digits (n : Nat) : Printable (Nat.toDigits 10 n) := by
  intro c member
  have digit := Nat.isDigit_of_mem_toDigits (by decide) (by decide) member
  have bounds : '0'.toNat ≤ c.toNat := by
    simp only [Char.isDigit, Bool.and_eq_true, decide_eq_true_eq] at digit
    exact digit.1
  exact Nat.le_trans (by decide) bounds

theorem zeros (count : Nat) : Printable (List.replicate count '0') := by
  intro c member
  obtain rfl := List.eq_of_mem_replicate member
  decide

end Printable

/-! ## Numbers -/

theorem printable_int (n : Int) : Printable (toString n).toList := by
  cases n with
  | ofNat magnitude =>
      have text : (toString (Int.ofNat magnitude)).toList = Nat.toDigits 10 magnitude :=
        Nat.toList_repr
      rw [text]
      exact .digits magnitude
  | negSucc magnitude =>
      have text : (toString (Int.negSucc magnitude)).toList =
          '-' :: Nat.toDigits 10 (magnitude + 1) := by
        simp [Int.toString_eq_repr, Int.repr]
      rw [text]
      exact .cons (by decide) (.digits _)

namespace NumberLayout

theorem printable_positional {digits : List Char} (printable : Printable digits) (point : Int)
    (showsFraction : Bool) : Printable (positionalText digits point showsFraction) := by
  rw [positionalText]
  split
  · have front : Printable ['0', '.'] := by decide
    exact (front.append (.zeros _)).append printable
  · split
    · refine (printable.append (.zeros _)).append ?_
      cases showsFraction <;> decide
    · have after : Printable ('.' :: digits.drop point.toNat) :=
        .cons (by decide) (printable.subset (List.drop_subset _ _))
      exact (printable.subset (List.take_subset _ _)).append after

theorem printable_exponent {digits : List Char} (printable : Printable digits) (point : Int)
    (signsExponent : Bool) : Printable (exponentText digits point signsExponent) := by
  have first : Printable (digits.take 1) := printable.subset (List.take_subset _ _)
  have later : Printable (digits.drop 1) := printable.subset (List.drop_subset _ _)
  have sign : Printable (if point - 1 < 0 then ['-'] else if signsExponent then ['+'] else []) := by
    repeat' split
    all_goals decide
  rw [exponentText]
  refine ((first.append ?_).append (.cons (by decide) sign)).append (.digits _)
  split
  · exact .nil
  · exact .cons (by decide) later

theorem printable_write (layout : NumberLayout) (x : Binary64) :
    Printable (layout.write x).toList := by
  have sign : Printable (if x.isNegative then ['-'] else []) := by split <;> decide
  have zero : Printable (if layout.showsFraction then "0.0" else "0").toList := by split <;> decide
  rw [write]
  split
  · decide
  · dsimp only
    split
    · rw [String.toList_ofList]
      exact sign.append (by decide)
    · split
      · split
        · rw [String.toList_ofList]
          exact sign.append zero
        · exact zero
      · rw [String.toList_ofList]
        refine sign.append ?_
        split
        · exact printable_positional (.digits _) _ _
        · exact printable_exponent (.digits _) _ _

end NumberLayout

/-! ## Records -/

namespace Json

theorem printable_escape (c : Char) : Printable (escapeChar c) := by
  have hex : ∀ n, Printable [hexDigitChar n] := by
    intro n
    have small : n % 16 < 16 := Nat.mod_lt _ (by decide)
    rw [hexDigitChar]
    generalize n % 16 = digit at small
    revert small
    revert digit
    decide
  rw [escapeChar]
  split
  · decide
  split
  · decide
  split
  · next plain => exact .cons plain .nil
  split
  · decide
  split
  · decide
  split
  · decide
  split
  · decide
  split
  · decide
  · have front : Printable ['\\', 'u', '0', '0'] := by decide
    exact front.append ((hex _).append (hex _))

theorem printable_quote (text : String) : Printable (quote text) := by
  have body : Printable (text.toList.flatMap escapeChar) := by
    intro c member
    obtain ⟨source, _, escaped⟩ := List.mem_flatMap.1 member
    exact printable_escape source c escaped
  exact .cons (by decide) (body.append (by decide))

theorem printable_float (x : Binary64) : Printable (floatChars x) := by
  rw [floatChars]
  split
  · exact NumberLayout.printable_write _ _
  · decide

theorem printable_members {members : Members}
    (values : ∀ member ∈ members, Printable member.2.chars) : Printable (memberChars members) := by
  induction members with
  | nil => exact .nil
  | cons member others ih =>
      have following := ih fun other listed => values other (List.mem_cons_of_mem _ listed)
      have first : Printable (quote member.1 ++ ':' :: member.2.chars) :=
        (printable_quote member.1).append
          (.cons (by decide) (values member (List.mem_cons_self ..)))
      cases others with
      | nil => simpa [memberChars] using first
      | cons next later =>
          rw [memberChars]
          · exact first.append (.cons (by decide) following)
          · simp

end Json

theorem Value.printable_toJson (value : Value) : Printable value.toJson.chars := by
  cases value with
  | text text => exact Json.printable_quote text
  | int number => exact printable_int number.toInt
  | float x => exact Json.printable_float x
  | bool truth => cases truth <;> decide
  | moment moment => exact Json.printable_quote moment.text
  | null => decide

theorem Record.printable_toJson (record : Record) : Printable record.toJson.chars := by
  have members : Printable (Json.memberChars
      (record.fields.map fun pair => (pair.1, pair.2.toJson))) := by
    refine Json.printable_members ?_
    intro member listed
    obtain ⟨pair, _, rfl⟩ := List.mem_map.1 listed
    exact pair.2.printable_toJson
  exact .cons (by decide) (members.append (by decide))

end Sluice
