import Mathlib.Algebra.BigOperators.Group.List.Basic
import Sluice.Text.Utf8

/-!
# Texts survive their bytes

Decoding takes back what encoding has done, whatever bytes follow a character; and bytes that can be
decoded are those of the text they come to.
-/

set_option autoImplicit false

namespace Sluice

theorem length_le_flatMap {α β : Type} {spell : α → List β} (xs : List α)
    (each : ∀ x ∈ xs, spell x ≠ []) : xs.length ≤ (xs.flatMap spell).length := by
  have one : ∀ n ∈ xs.map fun x => (spell x).length, 1 ≤ n := by
    intro n member
    obtain ⟨x, listed, rfl⟩ := List.mem_map.1 member
    exact List.length_pos_iff.2 (each x listed)
  have all := List.length_le_sum_of_one_le _ one
  rwa [List.length_map, ← List.length_flatMap] at all

namespace Utf8

theorem toNat_tailByte (n : Nat) : (tailByte n).toNat = 128 + n % 64 := by
  have small : 128 + n % 64 < 256 := by omega
  exact UInt8.toNat_ofNat_of_lt' small

theorem tailBits?_tailByte (n : Nat) : tailBits? (tailByte n) = some (n % 64) := by
  have inRange : 128 ≤ 128 + n % 64 ∧ 128 + n % 64 < 192 := by omega
  rw [tailBits?, toNat_tailByte, if_pos inRange, Nat.add_sub_cancel_left]

/-- The byte is the tail byte of every number that ends in its six bits. -/
theorem tailByte_of_bits {b : UInt8} {bits : Nat} (found : tailBits? b = some bits) :
    bits < 64 ∧ ∀ n, n % 64 = bits → tailByte n = b := by
  rw [tailBits?, Option.ite_none_right_eq_some] at found
  obtain ⟨inRange, rest⟩ := found
  have left := Option.some.inj rest
  refine ⟨by omega, fun n same => ?_⟩
  have number : 128 + n % 64 = b.toNat := by omega
  rw [tailByte, number, UInt8.ofNat_toNat]

theorem toNat_ofNat_of_valid {n : Nat} (valid : n.isValidChar) : (Char.ofNat n).toNat = n := by
  rw [Char.ofNat, dif_pos valid]
  rfl

theorem charFrom?_toNat {least : Nat} (c : Char) (reaches : least ≤ c.toNat) :
    charFrom? least c.toNat = some c := by
  have valid : c.toNat.isValidChar := c.valid
  rw [charFrom?, if_pos ⟨reaches, valid⟩, Char.ofNat_toNat]

theorem charFrom?_eq_some {least n : Nat} {c : Char} (found : charFrom? least n = some c) :
    least ≤ n ∧ c.toNat = n := by
  rw [charFrom?, Option.ite_none_right_eq_some] at found
  obtain ⟨⟨reaches, valid⟩, same⟩ := found
  obtain rfl := Option.some.inj same
  exact ⟨reaches, toNat_ofNat_of_valid valid⟩

theorem toNat_lt (c : Char) : c.toNat < 0x110000 := by
  have valid : c.toNat.isValidChar := c.valid
  rcases valid with below | ⟨_, above⟩
  · omega
  · exact above

/-! ## One character -/

section Lead

variable {lead one two three : UInt8} {bits oneBits twoBits threeBits : Nat} {c : Char}
  (rest : Bytes)

theorem decodeChar?_ascii (small : lead.toNat < 0x80) :
    decodeChar? (lead :: rest) = some (Char.ofNat lead.toNat, rest) := by
  unfold decodeChar?
  dsimp only
  rw [if_pos small]

theorem decodeChar?_two (leads : lead.toNat = 0xC0 + bits) (few : bits < 0x20)
    (first : tailBits? one = some oneBits)
    (char : charFrom? 0x80 (bits * 64 + oneBits) = some c) :
    decodeChar? (lead :: one :: rest) = some (c, rest) := by
  have left : lead.toNat - 0xC0 = bits := by omega
  rw [decodeChar?, if_neg (by omega), if_neg (by omega), if_pos (by omega), left]
  refine Option.bind_eq_some_iff.2 ⟨oneBits, first, ?_⟩
  exact Option.bind_eq_some_iff.2 ⟨c, char, rfl⟩

theorem decodeChar?_three (leads : lead.toNat = 0xE0 + bits) (few : bits < 0x10)
    (first : tailBits? one = some oneBits) (second : tailBits? two = some twoBits)
    (char : charFrom? 0x800 (bits * 4096 + oneBits * 64 + twoBits) = some c) :
    decodeChar? (lead :: one :: two :: rest) = some (c, rest) := by
  have left : lead.toNat - 0xE0 = bits := by omega
  rw [decodeChar?, if_neg (by omega), if_neg (by omega), if_neg (by omega), if_pos (by omega), left]
  refine Option.bind_eq_some_iff.2 ⟨oneBits, first, ?_⟩
  refine Option.bind_eq_some_iff.2 ⟨twoBits, second, ?_⟩
  exact Option.bind_eq_some_iff.2 ⟨c, char, rfl⟩

theorem decodeChar?_four (leads : lead.toNat = 0xF0 + bits) (few : bits < 0x08)
    (first : tailBits? one = some oneBits) (second : tailBits? two = some twoBits)
    (third : tailBits? three = some threeBits)
    (char : charFrom? 0x10000 (bits * 262144 + oneBits * 4096 + twoBits * 64 + threeBits) =
      some c) :
    decodeChar? (lead :: one :: two :: three :: rest) = some (c, rest) := by
  have left : lead.toNat - 0xF0 = bits := by omega
  rw [decodeChar?, if_neg (by omega), if_neg (by omega), if_neg (by omega), if_neg (by omega),
    if_pos (by omega), left]
  -- Taken apart by name: computing here would unfold the product of the bits.
  refine Option.bind_eq_some_iff.2 ⟨oneBits, first, ?_⟩
  refine Option.bind_eq_some_iff.2 ⟨twoBits, second, ?_⟩
  refine Option.bind_eq_some_iff.2 ⟨threeBits, third, ?_⟩
  exact Option.bind_eq_some_iff.2 ⟨c, char, rfl⟩

theorem encodeChar_two (leads : lead.toNat = 0xC0 + bits) (few : bits < 0x20)
    (first : tailBits? one = some oneBits)
    (char : charFrom? 0x80 (bits * 64 + oneBits) = some c) : encodeChar c = [lead, one] := by
  obtain ⟨reaches, number⟩ := charFrom?_eq_some char
  obtain ⟨fewOne, first⟩ := tailByte_of_bits first
  have leading : 0xC0 + (bits * 64 + oneBits) / 64 = lead.toNat := by omega
  dsimp only [encodeChar]
  rw [number, if_neg (by omega), if_pos (by omega), leading, UInt8.ofNat_toNat, first _ (by omega)]

theorem encodeChar_three (leads : lead.toNat = 0xE0 + bits) (few : bits < 0x10)
    (first : tailBits? one = some oneBits) (second : tailBits? two = some twoBits)
    (char : charFrom? 0x800 (bits * 4096 + oneBits * 64 + twoBits) = some c) :
    encodeChar c = [lead, one, two] := by
  obtain ⟨reaches, number⟩ := charFrom?_eq_some char
  obtain ⟨fewOne, first⟩ := tailByte_of_bits first
  obtain ⟨fewTwo, second⟩ := tailByte_of_bits second
  have leading : 0xE0 + (bits * 4096 + oneBits * 64 + twoBits) / 4096 = lead.toNat := by omega
  dsimp only [encodeChar]
  rw [number, if_neg (by omega), if_neg (by omega), if_pos (by omega), leading, UInt8.ofNat_toNat,
    first _ (by omega), second _ (by omega)]

theorem encodeChar_four (leads : lead.toNat = 0xF0 + bits)
    (first : tailBits? one = some oneBits) (second : tailBits? two = some twoBits)
    (third : tailBits? three = some threeBits)
    (char : charFrom? 0x10000 (bits * 262144 + oneBits * 4096 + twoBits * 64 + threeBits) =
      some c) : encodeChar c = [lead, one, two, three] := by
  obtain ⟨reaches, number⟩ := charFrom?_eq_some char
  obtain ⟨fewOne, first⟩ := tailByte_of_bits first
  obtain ⟨fewTwo, second⟩ := tailByte_of_bits second
  obtain ⟨fewThree, third⟩ := tailByte_of_bits third
  have leading : 0xF0 + (bits * 262144 + oneBits * 4096 + twoBits * 64 + threeBits) / 262144 =
      lead.toNat := by omega
  dsimp only [encodeChar]
  rw [number, if_neg (by omega), if_neg (by omega), if_neg (by omega), leading, UInt8.ofNat_toNat,
    first _ (by omega), second _ (by omega), third _ (by omega)]

end Lead

theorem decodeChar?_encodeChar (c : Char) (rest : Bytes) :
    decodeChar? (encodeChar c ++ rest) = some (c, rest) := by
  have bound := toNat_lt c
  have byte : ∀ n < 256, (UInt8.ofNat n).toNat = n := fun n => UInt8.toNat_ofNat_of_lt'
  rw [encodeChar]
  split
  · next one =>
      have lead := byte c.toNat (by omega)
      rw [List.singleton_append, decodeChar?_ascii rest (by rw [lead]; exact one), lead,
        Char.ofNat_toNat]
  · split
    · next two =>
        refine decodeChar?_two rest (byte _ (by omega)) (by omega) (tailBits?_tailByte _) ?_
        have whole : c.toNat / 64 * 64 + c.toNat % 64 = c.toNat := by omega
        rw [whole]
        exact charFrom?_toNat c (by omega)
    · split
      · next three =>
          refine decodeChar?_three rest (byte _ (by omega)) (by omega) (tailBits?_tailByte _)
            (tailBits?_tailByte _) ?_
          have whole : c.toNat / 4096 * 4096 + c.toNat / 64 % 64 * 64 + c.toNat % 64 = c.toNat := by
            omega
          rw [whole]
          exact charFrom?_toNat c (by omega)
      · refine decodeChar?_four rest (byte _ (by omega)) (by omega) (tailBits?_tailByte _)
          (tailBits?_tailByte _) (tailBits?_tailByte _) ?_
        have whole : c.toNat / 262144 * 262144 + c.toNat / 4096 % 64 * 4096 +
            c.toNat / 64 % 64 * 64 + c.toNat % 64 = c.toNat := by omega
        rw [whole]
        exact charFrom?_toNat c (by omega)

/-- A character is read from its own bytes only. -/
theorem decodeChar?_eq_some {bytes rest : Bytes} {c : Char}
    (found : decodeChar? bytes = some (c, rest)) : bytes = encodeChar c ++ rest := by
  unfold decodeChar? at found
  split at found
  · cases found
  · next lead others =>
    dsimp only at found
    split at found
    · next ascii =>
        obtain ⟨rfl, rfl⟩ := Prod.mk.inj (Option.some.inj found)
        have valid : lead.toNat.isValidChar := .inl (by omega)
        rw [encodeChar, toNat_ofNat_of_valid valid, if_pos ascii, UInt8.ofNat_toNat]
        rfl
    · split at found
      · cases found
      · split at found
        · split at found
          · obtain ⟨oneBits, first, found⟩ := Option.bind_eq_some_iff.1 found
            obtain ⟨_, char, found⟩ := Option.bind_eq_some_iff.1 found
            obtain ⟨rfl, rfl⟩ := Prod.mk.inj (Option.some.inj found)
            have leads : lead.toNat = 0xC0 + (lead.toNat - 0xC0) := by omega
            rw [encodeChar_two leads (by omega) first char]
            rfl
          · cases found
        · split at found
          · split at found
            · obtain ⟨oneBits, first, found⟩ := Option.bind_eq_some_iff.1 found
              obtain ⟨twoBits, second, found⟩ := Option.bind_eq_some_iff.1 found
              obtain ⟨_, char, found⟩ := Option.bind_eq_some_iff.1 found
              obtain ⟨rfl, rfl⟩ := Prod.mk.inj (Option.some.inj found)
              have leads : lead.toNat = 0xE0 + (lead.toNat - 0xE0) := by omega
              rw [encodeChar_three leads (by omega) first second char]
              rfl
            · cases found
          · split at found
            · split at found
              · obtain ⟨oneBits, first, found⟩ := Option.bind_eq_some_iff.1 found
                obtain ⟨twoBits, second, found⟩ := Option.bind_eq_some_iff.1 found
                obtain ⟨threeBits, third, found⟩ := Option.bind_eq_some_iff.1 found
                obtain ⟨_, char, found⟩ := Option.bind_eq_some_iff.1 found
                obtain ⟨rfl, rfl⟩ := Prod.mk.inj (Option.some.inj found)
                have leads : lead.toNat = 0xF0 + (lead.toNat - 0xF0) := by omega
                rw [encodeChar_four leads first second third char]
                rfl
              · cases found
            · cases found

/-! ## Texts -/

theorem encodeChar_ne_nil (c : Char) : encodeChar c ≠ [] := by
  rw [encodeChar]
  repeat' split
  all_goals simp

theorem encode_cons (c : Char) (text : List Char) :
    encode (c :: text) = encodeChar c ++ encode text := rfl

theorem encode_append (first second : List Char) :
    encode (first ++ second) = encode first ++ encode second := by
  simp [encode]

theorem length_le_encode (text : List Char) : text.length ≤ (encode text).length :=
  length_le_flatMap text fun c _ => encodeChar_ne_nil c

theorem decodeRun_encode (text : List Char) {fuel : Nat} (enough : text.length ≤ fuel) :
    decodeRun fuel (encode text) = (text, []) := by
  induction text generalizing fuel with
  | nil => cases fuel <;> rfl
  | cons c rest ih =>
      cases fuel with
      | zero => cases enough
      | succ fuel =>
          have run := ih (Nat.le_of_succ_le_succ enough)
          rw [decodeRun, encode_cons, decodeChar?_encodeChar]
          dsimp only
          rw [run]

theorem decode_encode (text : List Char) : decode (encode text) = .ok text := by
  rw [decode, decodeRun_encode text (length_le_encode text)]

theorem decodeRun_eq {fuel : Nat} {bytes left : Bytes} {text : List Char}
    (runs : decodeRun fuel bytes = (text, left)) : bytes = encode text ++ left := by
  induction fuel generalizing bytes text with
  | zero =>
      obtain ⟨rfl, rfl⟩ := Prod.mk.inj runs
      rfl
  | succ fuel ih =>
      rw [decodeRun] at runs
      split at runs
      · obtain ⟨rfl, rfl⟩ := Prod.mk.inj runs
        rfl
      · next c rest found =>
        obtain ⟨rfl, rfl⟩ := Prod.mk.inj runs
        rw [encode_cons, List.append_assoc, ← ih rfl]
        exact decodeChar?_eq_some found

theorem decode?_eq_some {bytes : Bytes} {text : List Char} :
    decode? bytes = some text ↔ bytes = encode text := by
  constructor
  · intro found
    rw [decode?, decode] at found
    split at found
    · next text runs =>
      obtain rfl := Option.some.inj found
      rw [decodeRun_eq runs, List.append_nil]
    · cases found
  · rintro rfl
    rw [decode?, decode_encode]
    rfl

/-! ## ASCII bytes -/

/-- The bytes of a character beyond ASCII are all beyond ASCII. -/
theorem encodeChar_high {c : Char} (high : 0x80 ≤ c.toNat) {b : UInt8} (member : b ∈ encodeChar c) :
    0x80 ≤ b.toNat := by
  have bound := toNat_lt c
  have byte : ∀ n < 256, (UInt8.ofNat n).toNat = n := fun n => UInt8.toNat_ofNat_of_lt'
  have tail : ∀ n, 0x80 ≤ (tailByte n).toNat := fun n => by
    rw [toNat_tailByte]
    omega
  rw [encodeChar] at member
  split at member
  · omega
  · split at member
    · rcases List.mem_cons.1 member with rfl | member
      · rw [byte _ (by omega)]
        omega
      · obtain rfl := List.mem_singleton.1 member
        exact tail _
    · split at member
      · simp only [List.mem_cons, List.not_mem_nil, or_false] at member
        rcases member with rfl | rfl | rfl
        · rw [byte _ (by omega)]
          omega
        · exact tail _
        · exact tail _
      · simp only [List.mem_cons, List.not_mem_nil, or_false] at member
        rcases member with rfl | rfl | rfl | rfl
        · rw [byte _ (by omega)]
          omega
        · exact tail _
        · exact tail _
        · exact tail _

/-- The byte of an ASCII character is found where the character is and nowhere else. -/
theorem mem_encode_ascii {d : Char} (ascii : d.toNat < 0x80) (text : List Char) :
    UInt8.ofNat d.toNat ∈ encode text ↔ d ∈ text := by
  have byte : ∀ n < 256, (UInt8.ofNat n).toNat = n := fun n => UInt8.toNat_ofNat_of_lt'
  have one : ∀ c, UInt8.ofNat d.toNat ∈ encodeChar c ↔ d = c := by
    intro c
    by_cases high : 0x80 ≤ c.toNat
    · constructor
      · intro member
        have beyond := encodeChar_high high member
        rw [byte _ (by omega)] at beyond
        omega
      · rintro rfl
        omega
    · have single : encodeChar c = [UInt8.ofNat c.toNat] := by
        rw [encodeChar, if_pos (by omega)]
      rw [single, List.mem_singleton]
      constructor
      · intro same
        have numbers := congrArg UInt8.toNat same
        rw [byte _ (by omega), byte _ (by omega)] at numbers
        exact Char.toNat_inj.1 numbers
      · rintro rfl
        rfl
  simp [encode, one]

end Utf8

end Sluice
