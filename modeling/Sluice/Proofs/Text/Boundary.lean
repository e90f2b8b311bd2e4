import Sluice.Proofs.Text.Utf8
import Sluice.Text.Lines

/-!
# Texts cut at their bytes

A text can be cut where one of its characters begins and where it ends.  The byte behind the cut
tells whether a character begins there, so two texts with the same bytes between two places can be
cut there alike, whatever bytes they have elsewhere.
-/

set_option autoImplicit false

namespace Sluice

namespace Utf8

theorem encode_injective : Function.Injective encode := by
  intro one two same
  have decoded := congrArg decode same
  rw [decode_encode, decode_encode] at decoded
  exact Except.ok.inj decoded

theorem size_eq (text : List Char) : size text = (encode text).length := by
  induction text with
  | nil => rfl
  | cons c rest ih => rw [size, ih, encode_cons, List.length_append]

theorem size_append (first second : List Char) :
    size (first ++ second) = size first + size second := by
  rw [size_eq, size_eq, size_eq, encode_append, List.length_append]

theorem size_encodeChar_pos (c : Char) : 0 < (encodeChar c).length :=
  List.length_pos_iff.2 (encodeChar_ne_nil c)

theorem size_eq_zero {text : List Char} : size text = 0 ↔ text = [] := by
  cases text with
  | nil => exact ⟨fun _ => rfl, fun _ => rfl⟩
  | cons c rest =>
      have positive := size_encodeChar_pos c
      rw [size]
      constructor
      · intro zero
        omega
      · intro empty
        cases empty

/-- What begins with the bytes of a text begins with the text. -/
theorem prefix_of_encode_prefix {first whole : List Char} (begins : encode first <+: encode whole) :
    first <+: whole := by
  induction first generalizing whole with
  | nil => exact List.nil_prefix
  | cons c rest ih =>
      obtain ⟨after, bytes⟩ := begins
      rw [encode_cons, List.append_assoc] at bytes
      -- The bytes of the whole decode to its first character, and to the one that is sought.
      have sought := decodeChar?_encodeChar c (encode rest ++ after)
      rw [bytes] at sought
      cases whole with
      | nil => cases sought
      | cons d others =>
          rw [encode_cons, decodeChar?_encodeChar] at sought
          obtain ⟨rfl, same⟩ := Prod.mk.inj (Option.some.inj sought)
          exact List.cons_prefix_cons.2 ⟨rfl, ih ⟨after, same.symm⟩⟩

/-! ## Boundaries -/

/-- A character of the text begins behind so many bytes, or the text ends there. -/
def Boundary (text : List Char) (place : Nat) : Prop :=
  ∃ before after, text = before ++ after ∧ (encode before).length = place

def IsTail (b : UInt8) : Prop := 128 ≤ b.toNat ∧ b.toNat < 192

theorem isTail_tailByte (n : Nat) : IsTail (tailByte n) := by
  rw [IsTail, toNat_tailByte]
  omega

/-- The first byte of a character is the only one that follows none. -/
theorem encodeChar_bytes (c : Char) :
    ∃ lead tail, encodeChar c = lead :: tail ∧ ¬ IsTail lead ∧ ∀ b ∈ tail, IsTail b := by
  have bound := toNat_lt c
  have leads : ∀ n < 256, n < 128 ∨ 192 ≤ n → ¬ IsTail (UInt8.ofNat n) := by
    intro n small apart
    rw [IsTail, UInt8.toNat_ofNat_of_lt' small]
    omega
  rw [encodeChar]
  split
  · exact ⟨_, _, rfl, leads _ (by omega) (by omega), by simp⟩
  · split
    · exact ⟨_, _, rfl, leads _ (by omega) (by omega), by simp [isTail_tailByte]⟩
    · split
      · exact ⟨_, _, rfl, leads _ (by omega) (by omega), by simp [isTail_tailByte]⟩
      · exact ⟨_, _, rfl, leads _ (by omega) (by omega), by simp [isTail_tailByte]⟩

theorem boundary_zero (text : List Char) : Boundary text 0 := ⟨[], text, rfl, rfl⟩

/-- A text that is cut behind its first character is cut in what follows that character. -/
theorem divides_cons {c : Char} {rest before after : List Char} {place : Nat}
    (positive : 0 < place) : (c :: rest = before ++ after ∧ size before = place) ↔
      (encodeChar c).length ≤ place ∧ ∃ others, before = c :: others ∧ rest = others ++ after ∧
        size others = place - (encodeChar c).length := by
  constructor
  · rintro ⟨divides, rfl⟩
    cases before with
    | nil => cases positive
    | cons d others =>
        obtain ⟨rfl, rfl⟩ := List.cons.inj divides
        rw [size]
        exact ⟨Nat.le_add_right .., others, rfl, rfl, by omega⟩
  · rintro ⟨reaches, others, rfl, rfl, counts⟩
    refine ⟨rfl, ?_⟩
    rw [size]
    omega

theorem boundary_cons {c : Char} {rest : List Char} {place : Nat} (positive : 0 < place) :
    Boundary (c :: rest) place ↔
      (encodeChar c).length ≤ place ∧ Boundary rest (place - (encodeChar c).length) := by
  simp only [Boundary, ← size_eq, divides_cons positive]
  constructor
  · rintro ⟨_, after, reaches, others, _, rfl, counts⟩
    exact ⟨reaches, others, after, rfl, counts⟩
  · rintro ⟨reaches, others, after, rfl, counts⟩
    exact ⟨_, after, reaches, others, rfl, rfl, counts⟩

/-- In front of its end a text can be cut before the bytes that begin a character. -/
theorem boundary_iff_leads {text : List Char} {place : Nat} {b : UInt8}
    (stands : (encode text)[place]? = some b) : Boundary text place ↔ ¬ IsTail b := by
  induction text generalizing place with
  | nil => cases stands
  | cons c rest ih =>
      obtain ⟨lead, tail, bytes, leads, follow⟩ := encodeChar_bytes c
      rw [encode_cons] at stands
      by_cases first : place = 0
      · subst first
        rw [bytes] at stands
        obtain rfl : lead = b := Option.some.inj stands
        exact iff_of_true (boundary_zero _) leads
      · rw [boundary_cons (Nat.pos_of_ne_zero first)]
        by_cases inside : place < (encodeChar c).length
        · rw [List.getElem?_append_left inside, bytes] at stands
          obtain ⟨offset, rfl⟩ := Nat.exists_eq_succ_of_ne_zero first
          have member : b ∈ tail := List.mem_of_getElem? stands
          exact iff_of_false (fun reaches => by omega) (not_not_intro (follow b member))
        · have reaches : (encodeChar c).length ≤ place := Nat.le_of_not_lt inside
          rw [List.getElem?_append_right reaches] at stands
          rw [← ih stands]
          exact and_iff_right reaches

end Utf8

/-! ## Cuts -/

namespace TextCut

open Utf8

theorem dropBytes?_eq_some {text after : List Char} {n : Nat} :
    dropBytes? text n = some after ↔ ∃ before, text = before ++ after ∧ size before = n := by
  induction text generalizing n with
  | nil =>
      cases n with
      | zero =>
          rw [dropBytes?, Option.some.injEq]
          constructor
          · rintro rfl
            exact ⟨[], rfl, rfl⟩
          · rintro ⟨before, divides, _⟩
            exact (List.append_eq_nil_iff.1 divides.symm).2.symm
      | succ n => simp [dropBytes?, and_assoc, size]
  | cons c rest ih =>
      cases n with
      | zero => simp [dropBytes?, size_eq_zero]
      | succ n =>
          simp only [dropBytes?, divides_cons (Nat.succ_pos n)]
          split
          · next reaches =>
              rw [ih]
              constructor
              · rintro ⟨others, rfl, counts⟩
                exact ⟨_, reaches, others, rfl, rfl, counts⟩
              · rintro ⟨_, _, others, _, rfl, counts⟩
                exact ⟨others, rfl, counts⟩
          · next beyond => simp [beyond]

theorem takeBytes?_eq_some {text cut : List Char} {n : Nat} :
    takeBytes? text n = some cut ↔ ∃ after, text = cut ++ after ∧ size cut = n := by
  induction text generalizing n cut with
  | nil =>
      cases n with
      | zero =>
          rw [takeBytes?, Option.some.injEq]
          constructor
          · rintro rfl
            exact ⟨[], rfl, rfl⟩
          · rintro ⟨after, divides, _⟩
            exact (List.append_eq_nil_iff.1 divides.symm).1.symm
      | succ n =>
          rw [takeBytes?]
          constructor
          · intro found
            cases found
          · rintro ⟨after, divides, counts⟩
            obtain ⟨rfl, _⟩ := List.append_eq_nil_iff.1 divides.symm
            cases counts
  | cons c rest ih =>
      cases n with
      | zero =>
          rw [takeBytes?, Option.some.injEq]
          constructor
          · rintro rfl
            exact ⟨c :: rest, rfl, rfl⟩
          · rintro ⟨after, _, counts⟩
            exact (size_eq_zero.1 counts).symm
      | succ n =>
          simp only [takeBytes?, divides_cons (Nat.succ_pos n)]
          split
          · next reaches =>
              rw [Option.map_eq_some_iff]
              constructor
              · rintro ⟨others, found, rfl⟩
                obtain ⟨after, rfl, counts⟩ := ih.1 found
                exact ⟨after, reaches, others, rfl, rfl, counts⟩
              · rintro ⟨after, _, others, rfl, rfl, counts⟩
                exact ⟨others, ih.2 ⟨after, rfl, counts⟩, rfl⟩
          · next beyond => simp [beyond]

theorem bytes?_eq_some {text cut : List Char} {start stop : Nat} :
    bytes? text start stop = some cut ↔ ∃ before after, text = before ++ (cut ++ after) ∧
      size before = start ∧ start + size cut = stop := by
  rw [bytes?]
  split
  · next reversed =>
      constructor
      · intro found
        cases found
      · rintro ⟨before, after, _, rfl, counts⟩
        omega
  · next ordered =>
      simp only [Option.bind_eq_some_iff, dropBytes?_eq_some, takeBytes?_eq_some]
      constructor
      · rintro ⟨_, ⟨before, rfl, counts⟩, after, rfl, taken⟩
        exact ⟨before, after, rfl, counts, by omega⟩
      · rintro ⟨before, after, rfl, counts, taken⟩
        exact ⟨_, ⟨before, rfl, counts⟩, after, rfl, by omega⟩

structure Fits (text : List Char) (start stop : Nat) : Prop where
  within : stop ≤ (encode text).length
  begins : Boundary text start
  ends : Boundary text stop

structure CutsOut (text : List Char) (start stop : Nat) (cut : List Char) : Prop
    extends Fits text start stop where
  bytes : encode cut = ((encode text).drop start).take (stop - start)

theorem cutsOut_append (before cut after : List Char) :
    CutsOut (before ++ (cut ++ after)) (size before) (size before + size cut) cut where
  within := by
    rw [← size_eq, size_append, size_append]
    omega
  begins := ⟨before, _, rfl, (size_eq before).symm⟩
  ends := by
    refine ⟨before ++ cut, after, (List.append_assoc ..).symm, ?_⟩
    rw [← size_eq, size_append]
  bytes := by
    rw [encode_append, encode_append, size_eq, List.drop_left, Nat.add_sub_cancel_left, size_eq,
      List.take_left]

theorem Fits.exists_bytes? {text : List Char} {start stop : Nat} (fits : Fits text start stop)
    (ordered : start ≤ stop) : ∃ cut, bytes? text start stop = some cut := by
  obtain ⟨before, rest, rfl, isStart⟩ := fits.begins
  obtain ⟨through, after, divides, isStop⟩ := fits.ends
  rw [← size_eq] at isStart isStop
  have within : before <+: through := by
    rcases List.prefix_or_prefix_of_prefix ⟨rest, rfl⟩ ⟨after, divides.symm⟩ with inside | beyond
    · exact inside
    · obtain ⟨more, rfl⟩ := beyond
      rw [size_append] at isStart
      obtain rfl : more = [] := size_eq_zero.1 (by omega)
      exact ⟨[], by simp⟩
  obtain ⟨cut, rfl⟩ := within
  rw [size_append] at isStop
  refine ⟨cut, bytes?_eq_some.2 ⟨before, after, ?_, isStart, by omega⟩⟩
  rw [divides, List.append_assoc]

theorem bytes?_eq_some_iff {text cut : List Char} {start stop : Nat} (ordered : start ≤ stop) :
    bytes? text start stop = some cut ↔ CutsOut text start stop cut := by
  have cuts : ∀ {other}, bytes? text start stop = some other → CutsOut text start stop other := by
    intro other found
    obtain ⟨before, after, rfl, rfl, rfl⟩ := bytes?_eq_some.1 found
    exact cutsOut_append before other after
  refine ⟨cuts, fun given => ?_⟩
  obtain ⟨other, found⟩ := given.exists_bytes? ordered
  have same : encode cut = encode other := given.bytes.trans (cuts found).bytes.symm
  rwa [encode_injective same]

theorem bytes?_eq_none_iff {text : List Char} {start stop : Nat} (ordered : start ≤ stop) :
    bytes? text start stop = none ↔ ¬ Fits text start stop := by
  rw [Option.eq_none_iff_forall_ne_some]
  constructor
  · intro never fits
    obtain ⟨cut, found⟩ := fits.exists_bytes? ordered
    exact never cut found
  · intro unfit cut found
    exact unfit ((bytes?_eq_some_iff ordered).1 found).toFits

def SameBytes (one two : List Char) (start stop : Nat) : Prop :=
  ∀ place, start ≤ place → place < stop → (encode one)[place]? = (encode two)[place]?

theorem SameBytes.take_drop {one two : List Char} {start stop : Nat}
    (same : SameBytes one two start stop) :
    ((encode one).drop start).take (stop - start) =
      ((encode two).drop start).take (stop - start) := by
  apply List.ext_getElem?
  intro offset
  rw [List.getElem?_take, List.getElem?_take, List.getElem?_drop, List.getElem?_drop]
  split
  · exact same _ (by omega) (by omega)
  · rfl

/-- What is cut out of a text is cut out of every text with the same bytes in its place. -/
theorem bytes?_alike {one two cut : List Char} {start stop : Nat} (positive : start < stop)
    (reaches : stop ≤ (encode two).length) (same : SameBytes one two start stop)
    (found : bytes? one start stop = some cut) : bytes? two start stop = some cut := by
  have cuts := (bytes?_eq_some_iff (Nat.le_of_lt positive)).1 found
  have byteOne := List.getElem?_eq_getElem (Nat.lt_of_lt_of_le positive cuts.within)
  have byteTwo := (same start (Nat.le_refl _) positive).symm.trans byteOne
  -- The byte at the start is the same, so a character begins there.
  obtain ⟨before, rest, rfl, isStart⟩ :=
    (boundary_iff_leads byteTwo).2 ((boundary_iff_leads byteOne).1 cuts.begins)
  have bytes : encode cut = (encode rest).take (stop - start) := by
    rw [cuts.bytes, same.take_drop, encode_append, ← isStart, List.drop_left]
  -- What follows begins with the same characters, and the last of them ends at the stop.
  have begins : encode cut <+: encode rest := by
    rw [bytes]
    exact List.take_prefix _ _
  obtain ⟨after, rfl⟩ := prefix_of_encode_prefix begins
  refine bytes?_eq_some.2 ⟨before, after, rfl, by rw [size_eq, isStart], ?_⟩
  rw [encode_append, List.length_append] at reaches
  rw [size_eq, bytes, List.length_take]
  omega

end TextCut

end Sluice
