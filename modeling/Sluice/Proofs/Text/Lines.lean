import Mathlib.Data.List.Basic
import Sluice.Proofs.Text.Utf8
import Sluice.Text.Lines

/-!
# Lines are found again

Every text has lines, whether or not a line feed ends the last one, and they are found in its bytes
but for a carriage return at their ends.  Texts that hold no line ends themselves, each written with
a line feed behind it, are the lines of the bytes that are written.
-/

set_option autoImplicit false

namespace Sluice

/-! ## The lines of a text -/

/-- The text consists of these lines: a line feed ends each of them, or each but the last one, which
then is not empty. -/
inductive HasLines : List Char → List (List Char) → Prop where
  | nothing : HasLines [] []
  | unended {line : List Char} (unbroken : '\n' ∉ line) (nonempty : line ≠ []) :
      HasLines line [line]
  | ended {line rest : List Char} {lines : List (List Char)} (unbroken : '\n' ∉ line)
      (following : HasLines rest lines) : HasLines (line ++ '\n' :: rest) (line :: lines)

theorem HasLines.cons {c : Char} {text : List Char} {lines : List (List Char)} (other : c ≠ '\n')
    (has : HasLines text lines) : ∃ lines, HasLines (c :: text) lines := by
  have unbroken {line : List Char} (rest : '\n' ∉ line) : '\n' ∉ c :: line := by
    simpa [other.symm] using rest
  cases has with
  | nothing => exact ⟨_, .unended (unbroken List.not_mem_nil) (by simp)⟩
  | unended ends => exact ⟨_, .unended (unbroken ends) (by simp)⟩
  | ended ends following => exact ⟨_, .ended (unbroken ends) following⟩

theorem exists_hasLines (text : List Char) : ∃ lines, HasLines text lines := by
  induction text with
  | nil => exact ⟨_, .nothing⟩
  | cons c rest ih =>
      obtain ⟨lines, has⟩ := ih
      by_cases feed : c = '\n'
      · subst feed
        exact ⟨[] :: lines, .ended List.not_mem_nil has⟩
      · exact has.cons feed

theorem HasLines.not_mem {text : List Char} {lines : List (List Char)} (has : HasLines text lines)
    {c : Char} (absent : c ∉ text) : ∀ line ∈ lines, c ∉ line := by
  induction has with
  | nothing => simp
  | unended => simpa using absent
  | ended _ _ ih =>
      simp only [List.mem_append, List.mem_cons, not_or] at absent
      exact List.forall_mem_cons.2 ⟨absent.1, ih absent.2.2⟩

/-! ## Splitting -/

theorem splitLines_line {line : Bytes} (unbroken : 10 ∉ line) (rest : Bytes) :
    splitLines (line ++ 10 :: rest) = (line :: (splitLines rest).1, (splitLines rest).2) := by
  induction line with
  | nil => simp [splitLines]
  | cons b others ih =>
      have notFeed : b ≠ 10 := fun same => unbroken (same ▸ List.mem_cons_self ..)
      have unbrokenRest : 10 ∉ others := fun member => unbroken (List.mem_cons_of_mem _ member)
      simp [splitLines, ih unbrokenRest, notFeed]

theorem splitLines_unbroken {line : Bytes} (unbroken : 10 ∉ line) :
    splitLines line = ([], line) := by
  induction line with
  | nil => rfl
  | cons b others ih =>
      simp only [List.mem_cons, not_or] at unbroken
      simp [splitLines, ih unbroken.2, Ne.symm unbroken.1]

theorem unbroken_encode {line : List Char} (unbroken : '\n' ∉ line) : 10 ∉ Utf8.encode line :=
  fun member => unbroken ((Utf8.mem_encode_ascii (d := '\n') (by decide) line).1 member)

theorem decodeLine_eq_ok {line : Bytes} {text : List Char} :
    decodeLine line = .ok text ↔ line = Utf8.encode text := by
  rw [← Utf8.decode?_eq_some, decodeLine]
  cases Utf8.decode? line <;> simp

/-- The last byte is a carriage return if the last character is one. -/
theorem dropReturnByte_encode (line : List Char) : dropReturnByte (Utf8.encode line) =
    Utf8.encode (if line.getLast? = some '\r' then line.dropLast else line) := by
  rcases List.eq_nil_or_concat' line with rfl | ⟨before, last, rfl⟩
  · rfl
  · rw [List.getLast?_concat, List.dropLast_concat, Utf8.encode_append, dropReturnByte]
    by_cases isReturn : last = '\r'
    · subst isReturn
      have byte : Utf8.encode ['\r'] = [13] := by decide
      rw [byte, List.getLast?_concat, List.dropLast_concat, if_pos rfl, if_pos rfl]
    · have noReturn : (Utf8.encode before ++ Utf8.encode [last]).getLast? ≠ some 13 := by
        have nonempty : Utf8.encode [last] ≠ [] := by
          simpa [Utf8.encode] using Utf8.encodeChar_ne_nil last
        rw [List.getLast?_append_of_ne_nil _ nonempty]
        intro ends
        have member := (Utf8.mem_encode_ascii (d := '\r') (by decide) [last]).1
          (List.mem_of_getLast? ends)
        exact isReturn (List.mem_singleton.1 member).symm
      rw [if_neg noReturn, if_neg fun same => isReturn (Option.some.inj same), Utf8.encode_append]

namespace Delivery

theorem lines_last {line : Bytes} (unbroken : 10 ∉ line) (fault : Option StreamFault) :
    lines ⟨line, fault⟩ = if line.isEmpty || fault.isSome then [] else [decodeLine line] := by
  rw [lines, splitLines_unbroken unbroken]
  rfl

theorem lines_line {line : Bytes} (unbroken : 10 ∉ line) (rest : Bytes)
    (fault : Option StreamFault) : lines ⟨line ++ 10 :: rest, fault⟩ =
      decodeLine (dropReturnByte line) :: lines ⟨rest, fault⟩ := by
  simp only [lines, splitLines_line unbroken, List.map_cons]
  split <;> rfl

theorem lines_unended {line : List Char} (unbroken : '\n' ∉ line) (nonempty : line ≠ []) :
    lines ⟨Utf8.encode line, none⟩ = [.ok line] := by
  have bytes : (Utf8.encode line).isEmpty = false := by
    rw [List.isEmpty_eq_false_iff]
    intro empty
    have short := Utf8.length_le_encode line
    rw [empty] at short
    exact nonempty (List.length_eq_zero_iff.1 (Nat.le_zero.1 short))
  rw [lines_last (unbroken_encode unbroken), bytes, decodeLine_eq_ok.2 rfl]
  rfl

theorem lines_ended {line : List Char} (unbroken : '\n' ∉ line) (rest : List Char)
    (fault : Option StreamFault) : lines ⟨Utf8.encode (line ++ '\n' :: rest), fault⟩ =
      .ok (if line.getLast? = some '\r' then line.dropLast else line) ::
        lines ⟨Utf8.encode rest, fault⟩ := by
  have bytes : Utf8.encode (line ++ '\n' :: rest) =
      Utf8.encode line ++ 10 :: Utf8.encode rest := Utf8.encode_append ..
  rw [bytes, lines_line (unbroken_encode unbroken), dropReturnByte_encode, decodeLine_eq_ok.2 rfl]

end Delivery

/-! ## Numbers of lines -/

/-- The line of this number, counted from one: so many line feeds, less one, are in front of it, the
last of them right in front; and right behind it is another one, or the end. -/
def LineAt (bytes : Bytes) (number : Nat) (line : Bytes) : Prop :=
  ∃ front back, bytes = front ++ line ++ back ∧ front.count 10 + 1 = number ∧ 10 ∉ line ∧
    (front = [] ∨ front.getLast? = some 10) ∧ (back = [] ∨ back.head? = some 10)

namespace LineAt

variable {line : Bytes} {rest : Bytes}

theorem last (unbroken : 10 ∉ line) : LineAt line 1 line :=
  ⟨[], [], (List.append_nil line).symm, rfl, unbroken, .inl rfl, .inl rfl⟩

theorem first (unbroken : 10 ∉ line) : LineAt (line ++ 10 :: rest) 1 line :=
  ⟨[], 10 :: rest, rfl, rfl, unbroken, .inl rfl, .inr rfl⟩

theorem later {other : Bytes} {number : Nat} (unbroken : 10 ∉ other)
    (found : LineAt rest number line) : LineAt (other ++ 10 :: rest) (number + 1) line := by
  obtain ⟨front, back, rfl, counted, unbrokenToo, starts, ends⟩ := found
  refine ⟨other ++ 10 :: front, back, by simp, ?_, unbrokenToo, .inr ?_, ends⟩
  · rw [List.count_append, List.count_eq_zero.2 unbroken, List.count_cons_self]
    omega
  · rcases starts with rfl | starts
    · exact List.getLast?_concat
    · rw [List.getLast?_append, List.getLast?_cons, starts]
      rfl

end LineAt

theorem eq_dropReturnByte_append (line : Bytes) :
    ∃ returns, line = dropReturnByte line ++ List.replicate returns 13 := by
  rw [dropReturnByte]
  split
  · next last => exact ⟨1, (List.dropLast_append_getLast? _ last).symm⟩
  · exact ⟨0, (List.append_nil _).symm⟩

theorem encode_returns (text : List Char) (returns : Nat) :
    Utf8.encode (text ++ List.replicate returns '\r') =
      Utf8.encode text ++ List.replicate returns 13 := by
  have one : Utf8.encodeChar '\r' = [13] := by decide
  rw [Utf8.encode_append]
  congr 1
  induction returns with
  | zero => rfl
  | succ returns ih => rw [List.replicate_succ, Utf8.encode_cons, ih, one]; rfl

/-- A text that is delivered as a line is the line of its number, but for a carriage return. -/
theorem Delivery.lineAt_of_delivered {fault : Option StreamFault} {shown : List Char} :
    ∀ {bytes : Bytes} {offset : Nat},
      (Delivery.lines ⟨bytes, fault⟩)[offset]? = some (.ok shown) →
        ∃ returns, LineAt bytes (offset + 1)
          (Utf8.encode (shown ++ List.replicate returns '\r')) := by
  intro bytes offset delivered
  by_cases ends : 10 ∈ bytes
  · obtain ⟨line, rest, same, unbroken⟩ := List.eq_append_cons_of_mem ends
    subst same
    rw [lines_line unbroken] at delivered
    cases offset with
    | zero =>
        obtain ⟨returns, whole⟩ := eq_dropReturnByte_append line
        rw [decodeLine_eq_ok.1 (Option.some.inj delivered), ← encode_returns] at whole
        exact ⟨returns, whole ▸ .first unbroken⟩
    | succ offset =>
        obtain ⟨returns, found⟩ := lineAt_of_delivered delivered
        exact ⟨returns, found.later unbroken⟩
  · rw [lines_last ends] at delivered
    split at delivered
    · cases delivered
    · cases offset with
      | zero =>
          have line := decodeLine_eq_ok.1 (Option.some.inj delivered)
          exact ⟨0, by rw [List.replicate_zero, List.append_nil, ← line]; exact .last ends⟩
      | succ offset => cases delivered
termination_by bytes => bytes.length

/-! ## Texts on lines -/

def onLines (texts : List (List Char)) : List Char := texts.flatMap fun text => text ++ ['\n']

def IsLine (text : List Char) : Prop := '\n' ∉ text ∧ '\r' ∉ text

theorem Delivery.lines_onLines {texts : List (List Char)} (lines : ∀ text ∈ texts, IsLine text) :
    Delivery.lines ⟨Utf8.encode (onLines texts), none⟩ = texts.map .ok := by
  induction texts with
  | nil => rfl
  | cons text others ih =>
      obtain ⟨⟨unbroken, noReturn⟩, linesRest⟩ := List.forall_mem_cons.1 lines
      have kept : text.getLast? ≠ some '\r' := fun last => noReturn (List.mem_of_getLast? last)
      have written : onLines (text :: others) = text ++ '\n' :: onLines others := by simp [onLines]
      rw [written, lines_ended unbroken, if_neg kept, ih linesRest, List.map_cons]

end Sluice
