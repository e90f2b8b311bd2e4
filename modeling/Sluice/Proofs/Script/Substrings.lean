import Mathlib.Data.List.Infix
import Sluice.Script.Function

/-!
# Parts of texts

Cutting a text and searching it count the same characters: two positions cut out what stands between
them, and a text is found at the first position where it can be cut out.  An index outside of the
text stands for the end of the text that is nearer, also where a single character is selected.
-/

set_option autoImplicit false

namespace Sluice

namespace TextCut

variable {text sought : List Char}

/-! ## Cutting -/

theorem clampIndex_le (index : Int) (length : Nat) : clampIndex index length ≤ length :=
  Nat.min_le_right _ _

theorem clampIndex_eq (index : Int) (length : Nat) :
    (clampIndex index length : Int) = max 0 (min index length) := by
  unfold clampIndex
  omega

theorem between_comm (text : List Char) (start stop : Int) :
    between text start stop = between text stop start := by
  rw [between, between, Nat.min_comm, Nat.max_comm]

/-- A text is what stands before a slice, the slice and what stands behind it. -/
theorem append_slice (text : List Char) {start stop : Nat} (ordered : start ≤ stop) :
    text.take start ++ slice text start stop ++ text.drop stop = text := by
  have behind : text.drop stop = (text.drop start).drop (stop - start) := by
    rw [List.drop_drop, Nat.add_sub_cancel' ordered]
  rw [slice, behind, List.append_assoc, List.take_append_drop, List.take_append_drop]

/-- The part between two indexes stands where the smaller one says, and is as long as they are
apart. -/
theorem between_cuts (text : List Char) (start stop : Int) :
    let first := clampIndex start text.length
    let last := clampIndex stop text.length
    ∃ before after, text = before ++ between text start stop ++ after ∧
      before.length = min first last ∧
      (between text start stop).length = max first last - min first last := by
  intro first last
  have firstWithin : first ≤ text.length := clampIndex_le start text.length
  have lastWithin : last ≤ text.length := clampIndex_le stop text.length
  have ordered : min first last ≤ max first last := by omega
  refine ⟨_, _, (append_slice text ordered).symm, ?_, ?_⟩
  · rw [List.length_take]
    omega
  · show (slice text (min first last) (max first last)).length = _
    rw [slice, List.length_take, List.length_drop]
    omega

/-- Cut at an index, a text is its front and its back. -/
theorem front_append_back (text : List Char) (index : Int) :
    between text 0 index ++ onward text index = text := by
  have within := clampIndex_le index text.length
  have front : between text 0 index = text.take (clampIndex index text.length) := by
    have zero : clampIndex 0 text.length = 0 := Nat.zero_min _
    rw [between, zero, Nat.zero_min, Nat.zero_max, slice, List.drop_zero, Nat.sub_zero]
  have back : onward text index = text.drop (clampIndex index text.length) := by
    rw [onward, slice, List.take_of_length_le]
    rw [List.length_drop]
  rw [front, back, List.take_append_drop]

/-- The character at an index is the one that stands there; an index before the text stands for its
beginning. -/
theorem charAt_eq (text : List Char) (index : Int) :
    charAt text index = text[index.toNat]?.toList := by
  have cut : charAt text index = (text.drop (clampIndex index text.length)).head?.toList := by
    rw [charAt, slice, Nat.add_sub_cancel_left, List.take_one]
  rw [cut, List.head?_drop, clampIndex]
  rcases Nat.lt_or_ge index.toNat text.length with within | past
  · rw [Nat.min_eq_left (Nat.le_of_lt within)]
  · rw [Nat.min_eq_right past, List.getElem?_eq_none (Nat.le_refl _), List.getElem?_eq_none past]

theorem between_eq_charAt {index : Int} (nonneg : 0 ≤ index) (within : index < text.length) :
    between text index (index + 1) = charAt text index := by
  have first : clampIndex index text.length = index.toNat := by
    rw [clampIndex]
    omega
  have last : clampIndex (index + 1) text.length = index.toNat + 1 := by
    rw [clampIndex]
    omega
  rw [between, charAt, first, last, Nat.min_eq_left (Nat.le_succ _),
    Nat.max_eq_right (Nat.le_succ _)]

/-! ## Searching -/

/-- A text is found at the first position at which it stands. -/
theorem find?_eq_some {position : Nat} : find? text sought = some position ↔
    sought <+: text.drop position ∧ ∀ earlier < position, ¬ sought <+: text.drop earlier := by
  induction text generalizing position with
  | nil =>
      cases position with
      | zero => simp [find?]
      | succ position =>
          have first : sought <+: [] → ∃ earlier < position + 1, sought <+: [].drop earlier :=
            fun begins => ⟨0, position.succ_pos, begins⟩
          simp only [find?, List.drop_nil]
          grind
  | cons c rest ih =>
      rw [find?]
      by_cases here : sought.isPrefixOf (c :: rest)
      · rw [if_pos here, Option.some.injEq]
        have begins : sought <+: (c :: rest).drop 0 := List.isPrefixOf_iff_prefix.1 here
        constructor
        · rintro rfl
          exact ⟨begins, fun earlier before => (Nat.not_lt_zero _ before).elim⟩
        · rintro ⟨_, first⟩
          exact (Nat.eq_zero_of_not_pos fun later => first 0 later begins).symm
      · rw [if_neg here, Option.map_eq_some_iff]
        have notHere : ¬ sought <+: c :: rest := mt List.isPrefixOf_iff_prefix.2 here
        cases position with
        | zero => simpa using notHere
        | succ position =>
            have found := @ih position
            simp only [Nat.add_right_cancel_iff, exists_eq_right, found, List.drop_succ_cons]
            refine and_congr_right fun _ => ⟨fun first earlier before => ?_, ?_⟩
            · cases earlier with
              | zero => exact notHere
              | succ earlier => exact first earlier (Nat.lt_of_succ_lt_succ before)
            · exact fun first earlier before => first (earlier + 1) (Nat.succ_lt_succ before)

/-- A text stands at a position exactly if so many characters cut out there are that text. -/
theorem between_eq_iff (text sought : List Char) (position : Nat) :
    between text position (position + sought.length) = sought ↔ sought <+: text.drop position := by
  have cut : between text position (position + sought.length) =
      (text.drop position).take sought.length := by
    simp only [between, slice, clampIndex]
    rcases Nat.lt_or_ge text.length position with past | within
    · rw [List.drop_of_length_le (by omega), List.drop_of_length_le (by omega), List.take_nil,
        List.take_nil]
    · have start : min (min (position : Int).toNat text.length)
          (min (position + sought.length : Int).toNat text.length) = position := by omega
      rw [start, List.take_eq_take_iff, List.length_drop]
      omega
  rw [cut, List.prefix_iff_eq_take, eq_comm]

theorem length_add_le_of_find? {position : Nat} (found : find? text sought = some position) :
    position + sought.length ≤ text.length := by
  obtain ⟨stands, first⟩ := find?_eq_some.1 found
  have short := stands.length_le
  rw [List.length_drop] at short
  rcases Nat.lt_or_ge text.length position with past | within
  · -- Behind the text only the empty text stands, and this one stands at the beginning already.
    have empty : sought = [] := List.length_eq_zero_iff.1 (by omega)
    exact (first 0 (by omega) (empty ▸ List.nil_prefix)).elim
  · omega

end TextCut

/-! ## The functions of expressions -/

namespace Script

open TextCut

def clamped (length : Nat) (index : Int64) : Int := max 0 (min index.toInt length)

/-- The length of a text is an integer of expressions. -/
def Countable (s : String) : Prop := s.length < 0x8000000000000000

instance (s : String) : Decidable (Countable s) :=
  inferInstanceAs (Decidable (s.length < 0x8000000000000000))

/-- So many characters of a text, cut out at an index, are another text. -/
def StandsAt (s sought : String) (index : Int64) : Prop :=
  ∃ stop : Int64, stop.toInt = index.toInt + sought.length ∧
    applyFunction "substring" [.text s, .int index, .int stop] = .ok (.text sought)

variable {s sought : String}

theorem substring_apply (s : String) (start stop : Int64) :
    applyFunction "substring" [.text s, .int start, .int stop] =
      .ok (.text (String.ofList (between s.toList start.toInt stop.toInt))) := rfl

theorem onward_apply (s : String) (start : Int64) :
    applyFunction "substring" [.text s, .int start] =
      .ok (.text (String.ofList (onward s.toList start.toInt))) := rfl

theorem includes_apply (s sought : String) :
    applyFunction "includes" [.text s, .text sought] =
      .ok (.bool (find? s.toList sought.toList).isSome) := rfl

theorem startsWith_apply (s sought : String) :
    applyFunction "startsWith" [.text s, .text sought] =
      .ok (.bool (sought.toList.isPrefixOf s.toList)) := rfl

theorem indexOf_apply (s sought : String) :
    applyFunction "indexOf" [.text s, .text sought] =
      .ok (.int (indexOf s.toList sought.toList)) := rfl

/-- The length of a text counts its characters. -/
theorem property_length (countable : Countable s) :
    ∃ count : Int64, property (.text s) "length" = .ok (.int count) ∧ count.toInt = s.length :=
  ⟨Int64.ofNat s.length, rfl, Int64.toInt_ofNat_of_lt countable⟩

theorem substring_cuts (countable : Countable s) (start stop : Int64) :
    let first := clamped s.length start
    let last := clamped s.length stop
    ∃ part : String, ∃ count : Int64,
      applyFunction "substring" [.text s, .int start, .int stop] = .ok (.text part) ∧
      property (.text part) "length" = .ok (.int count) ∧ count.toInt = (first - last).natAbs ∧
      ∃ before after : String, s = before ++ part ++ after ∧ before.length = min first last := by
  intro first last
  obtain ⟨before, after, whole, ahead, size⟩ := between_cuts s.toList start.toInt stop.toInt
  have firstEq : first = clampIndex start.toInt s.toList.length := by
    rw [clampIndex_eq, String.length_toList]
    rfl
  have lastEq : last = clampIndex stop.toInt s.toList.length := by
    rw [clampIndex_eq, String.length_toList]
    rfl
  have startWithin := clampIndex_le start.toInt s.toList.length
  have stopWithin := clampIndex_le stop.toInt s.toList.length
  let part := String.ofList (between s.toList start.toInt stop.toInt)
  have partLength : part.length = (between s.toList start.toInt stop.toInt).length :=
    String.length_ofList
  have partCountable : Countable part := by
    have all : s.toList.length < 0x8000000000000000 := String.length_toList ▸ countable
    rw [Countable, partLength, size]
    omega
  obtain ⟨count, counts, number⟩ := property_length partCountable
  refine ⟨part, count, substring_apply s start stop, counts, ?_, String.ofList before,
    String.ofList after, ?_, ?_⟩
  · rw [number, partLength, size, firstEq, lastEq]
    omega
  · rw [← String.ofList_append, ← String.ofList_append, ← whole, String.ofList_toList]
  · rw [String.length_ofList, ahead, firstEq, lastEq]
    omega

/-- Within the integers, a text stands at an index as its characters do. -/
theorem standsAt_iff {position : Nat} (fits : position + sought.length < 0x8000000000000000) :
    StandsAt s sought (Int64.ofNat position) ↔
      sought.toList <+: s.toList.drop position := by
  have index : (Int64.ofNat position).toInt = position :=
    Int64.toInt_ofNat_of_lt (by omega)
  have behind : (Int64.ofNat (position + sought.length)).toInt = position + sought.length := by
    rw [Int64.toInt_ofNat_of_lt fits]
    omega
  have cut (stop : Int64) (reaches : stop.toInt = position + sought.length) :
      applyFunction "substring" [.text s, .int (Int64.ofNat position), .int stop] =
        .ok (.text sought) ↔ sought.toList <+: s.toList.drop position := by
    rw [substring_apply, index, reaches, ← between_eq_iff, String.length_toList, Except.ok.injEq,
      Datum.text.injEq, ← String.toList_inj, String.toList_ofList]
  rw [StandsAt, index]
  constructor
  · rintro ⟨stop, reaches, cuts⟩
    exact (cut stop reaches).1 cuts
  · intro begins
    exact ⟨_, behind, (cut _ behind).2 begins⟩

/-- The index of a text is the first at which it stands, and less than zero where it stands
nowhere. -/
theorem indexOf_first (countable : Countable s) (sought : String) :
    ∃ index : Int64, applyFunction "indexOf" [.text s, .text sought] = .ok (.int index) ∧
      ((index = -1 ∧ applyFunction "includes" [.text s, .text sought] = .ok (.bool false)) ∨
        (0 ≤ index ∧ applyFunction "includes" [.text s, .text sought] = .ok (.bool true) ∧
          StandsAt s sought index ∧
          ∀ other, 0 ≤ other → StandsAt s sought other → index ≤ other)) := by
  cases found : find? s.toList sought.toList with
  | none =>
      refine ⟨-1, ?_, .inl ⟨rfl, ?_⟩⟩
      · rw [indexOf_apply, indexOf, found]
      · rw [includes_apply, found]
        rfl
  | some position =>
      have fits : position + sought.length < 0x8000000000000000 := by
        have within := length_add_le_of_find? found
        rw [String.length_toList, String.length_toList] at within
        exact Nat.lt_of_le_of_lt within countable
      have number : (Int64.ofNat position).toInt = position :=
        Int64.toInt_ofNat_of_lt (by omega)
      obtain ⟨stands, first⟩ := find?_eq_some.1 found
      refine ⟨Int64.ofNat position, ?_, .inr ⟨?_, ?_, (standsAt_iff fits).2 stands, ?_⟩⟩
      · rw [indexOf_apply, indexOf, found]
      · rw [Int64.le_iff_toInt_le, number]
        exact Int.natCast_nonneg position
      · rw [includes_apply, found]
        rfl
      · intro other nonneg standsThere
        rw [Int64.le_iff_toInt_le, number]
        by_contra earlier
        have sign : (0 : Int) ≤ other.toInt := Int64.le_iff_toInt_le.1 nonneg
        obtain ⟨before, same⟩ := Int.eq_ofNat_of_zero_le sign
        have sooner : before < position := by omega
        have again : other = Int64.ofNat before := by
          rw [← Int64.toInt_inj, same, Int64.toInt_ofNat_of_lt (by omega)]
        rw [again, standsAt_iff (by omega)] at standsThere
        exact first before sooner standsThere

theorem startsWith_stands (countable : Countable s) (sought : String) :
    ∃ begins : Bool, applyFunction "startsWith" [.text s, .text sought] = .ok (.bool begins) ∧
      (begins = true ↔ StandsAt s sought 0) := by
  refine ⟨_, startsWith_apply s sought, ?_⟩
  rw [List.isPrefixOf_iff_prefix]
  rcases Nat.lt_or_ge sought.length 0x8000000000000000 with fits | long
  · exact (@standsAt_iff s sought 0 (by omega)).symm
  · -- A text that is too long to be counted is longer than the one it is sought in.
    constructor
    · intro begins
      have short := begins.length_le
      rw [String.length_toList, String.length_toList] at short
      exact (Nat.not_lt.2 (Nat.le_trans long short) countable).elim
    · rintro ⟨stop, reaches, _⟩
      have least := stop.toInt_lt
      have zero : (0 : Int64).toInt = 0 := rfl
      omega

theorem front_and_back (s : String) (index : Int64) :
    ∃ front back : String,
      applyFunction "substring" [.text s, .int 0, .int index] = .ok (.text front) ∧
      applyFunction "substring" [.text s, .int index] = .ok (.text back) ∧
      BinaryOperator.add.apply (.text front) (.text back) = .ok (.text s) := by
  refine ⟨_, _, substring_apply s 0 index, onward_apply s index, ?_⟩
  have whole := front_append_back s.toList index.toInt
  have joined : String.ofList (between s.toList (0 : Int64).toInt index.toInt) ++
      String.ofList (onward s.toList index.toInt) = s := by
    rw [← String.ofList_append]
    exact (congrArg String.ofList whole).trans String.ofList_toList
  exact congrArg (fun text => Except.ok (Datum.text text)) joined

/-- Whatever the indexes are, two of them cut out what stands between them, whichever comes first; a
text cut at an index is put together again; and the index, the presence and the beginning of a text
in another are told by what can be cut out. -/
theorem parts_fit_together (s sought : String) (countable : Countable s) :
    (∃ count : Int64, property (.text s) "length" = .ok (.int count) ∧
      count.toInt = s.toList.length) ∧
    (∀ start stop : Int64,
      applyFunction "substring" [.text s, .int start, .int stop] =
        applyFunction "substring" [.text s, .int stop, .int start] ∧
      let first := clamped s.length start
      let last := clamped s.length stop
      ∃ part : String, ∃ count : Int64,
        applyFunction "substring" [.text s, .int start, .int stop] = .ok (.text part) ∧
        property (.text part) "length" = .ok (.int count) ∧
        count.toInt = (first - last).natAbs ∧
        ∃ before after : String, s = before ++ part ++ after ∧
          before.length = min first last) ∧
    (∀ index : Int64, ∃ front back : String,
      applyFunction "substring" [.text s, .int 0, .int index] = .ok (.text front) ∧
      applyFunction "substring" [.text s, .int index] = .ok (.text back) ∧
      BinaryOperator.add.apply (.text front) (.text back) = .ok (.text s)) ∧
    (∃ index : Int64, applyFunction "indexOf" [.text s, .text sought] = .ok (.int index) ∧
      ((index = -1 ∧ applyFunction "includes" [.text s, .text sought] = .ok (.bool false)) ∨
        (0 ≤ index ∧ applyFunction "includes" [.text s, .text sought] = .ok (.bool true) ∧
          StandsAt s sought index ∧
          ∀ other, 0 ≤ other → StandsAt s sought other → index ≤ other))) ∧
    ∃ begins : Bool, applyFunction "startsWith" [.text s, .text sought] = .ok (.bool begins) ∧
      (begins = true ↔ StandsAt s sought 0) := by
  refine ⟨?_, ?_, front_and_back s, indexOf_first countable sought,
    startsWith_stands countable sought⟩
  · rw [String.length_toList]
    exact property_length countable
  · intro start stop
    refine ⟨?_, substring_cuts countable start stop⟩
    rw [substring_apply, substring_apply, between_comm]

/-- Characters of several bytes, and indexes at the ends of the integers. -/
theorem parts_fit_together_wide :
    Countable "aé😀é😀" ∧
      applyFunction "substring" [.text "aé😀é😀", .int Int64.maxValue, .int 3] =
        .ok (.text "é😀") ∧
      applyFunction "substring" [.text "aé😀é😀", .int Int64.minValue, .int 2] =
        .ok (.text "aé") ∧
      ∃ index : Int64, applyFunction "indexOf" [.text "aé😀é😀", .text "😀"] = .ok (.int index) ∧
        index = 2 ∧ StandsAt "aé😀é😀" "😀" index := by
  have countable : Countable "aé😀é😀" := by decide
  obtain ⟨-, -, -, ⟨index, found, place⟩, -⟩ := parts_fit_together "aé😀é😀" "😀" countable
  have second : indexOf "aé😀é😀".toList "😀".toList = 2 := by decide +kernel
  obtain rfl : 2 = index := by
    rw [indexOf_apply, second] at found
    exact Datum.int.inj (Except.ok.inj found)
  refine ⟨countable, ?_, ?_, 2, found, rfl, ?_⟩
  · rw [substring_apply]
    exact congrArg (fun text => Except.ok (Datum.text text)) (by decide +kernel)
  · rw [substring_apply]
    exact congrArg (fun text => Except.ok (Datum.text text)) (by decide +kernel)
  · rcases place with ⟨less, _⟩ | ⟨_, _, stands, _⟩
    · cases less
    · exact stands

/-! ## One character -/

theorem charAt_apply (s : String) (index : Int64) :
    applyFunction "charAt" [.text s, .int index] =
      .ok (.text (String.ofList (charAt s.toList index.toInt))) := rfl

/-- The character that stands at an index and nothing else: the empty text if none stands there. -/
def characterAt (s : String) (index : Int) : String :=
  if 0 ≤ index then String.ofList s.toList[index.toNat]?.toList else ""

/-- What is selected is the character at the index; an index before the text is moved to its
beginning. -/
theorem ofList_charAt (s : String) (index : Int) :
    String.ofList (charAt s.toList index) = characterAt s (max 0 index) := by
  have moved : (max 0 index).toNat = index.toNat := by omega
  rw [characterAt, if_pos (Int.le_max_left 0 index), moved, charAt_eq]

/-- Only where there is nothing to select does it not matter that the index is moved. -/
theorem characterAt_moved_iff (s : String) (index : Int) :
    characterAt s (max 0 index) = characterAt s index ↔ 0 ≤ index ∨ s = "" := by
  by_cases nonneg : 0 ≤ index
  · rw [Int.max_eq_right nonneg]
    exact ⟨fun _ => .inl nonneg, fun _ => rfl⟩
  · have moved : (max 0 index).toNat = 0 := by omega
    rw [characterAt, if_pos (Int.le_max_left 0 index), moved, characterAt, if_neg nonneg]
    constructor
    · intro empty
      cases letters : s.toList with
      | nil => exact .inr (String.toList_eq_nil_iff.1 letters)
      | cons first rest =>
          have same := congrArg String.toList empty
          rw [letters, String.toList_ofList] at same
          cases same
    · rintro (within | rfl)
      · exact absurd within nonneg
      · rfl

/-- An index within a text selects the character that stands there, which can be cut out as well,
and one past its end selects nothing.  An index before the text, however, selects what stands first,
so such an index selects too much unless the text is empty. -/
theorem charAt_selects_iff (s : String) (index : Int64) :
    ∃ character : String,
      applyFunction "charAt" [.text s, .int index] = .ok (.text character) ∧
      character = characterAt s (max 0 index.toInt) ∧
      (character = characterAt s index.toInt ↔ 0 ≤ index ∨ s = "") ∧
      (0 ≤ index → index.toInt < s.length →
        (∃ c, s.toList[index.toInt.toNat]? = some c ∧ character = String.ofList [c]) ∧
        ∀ stop : Int64, stop.toInt = index.toInt + 1 →
          applyFunction "substring" [.text s, .int index, .int stop] = .ok (.text character)) ∧
      (s.length ≤ index.toInt → character = "") := by
  have sign : 0 ≤ index ↔ 0 ≤ index.toInt := Int64.le_iff_toInt_le
  refine ⟨_, charAt_apply s index, ofList_charAt s index.toInt, ?_, ?_, ?_⟩
  · rw [ofList_charAt, characterAt_moved_iff, sign]
  · intro nonneg within
    rw [sign] at nonneg
    rw [← String.length_toList] at within
    have inside : index.toInt.toNat < s.toList.length := by omega
    refine ⟨⟨s.toList[index.toInt.toNat], List.getElem?_eq_getElem inside, ?_⟩, fun stop next => ?_⟩
    · rw [charAt_eq, List.getElem?_eq_getElem inside, Option.toList_some]
    · rw [substring_apply, next, between_eq_charAt nonneg within]
  · intro past
    rw [← String.length_toList] at past
    have outside : s.toList.length ≤ index.toInt.toNat := by omega
    rw [charAt_eq, List.getElem?_eq_none outside]
    rfl

/-- The last character is of several bytes, and one further on there is none. -/
theorem charAt_selects_iff_wide :
    ((0 : Int64) ≤ 2 ∧ (2 : Int64).toInt < "aé😀".length ∧
      (3 : Int64).toInt = (2 : Int64).toInt + 1 ∧ "aé😀".length ≤ (3 : Int64).toInt) ∧
      applyFunction "charAt" [.text "aé😀", .int 2] = .ok (.text "😀") ∧
      applyFunction "substring" [.text "aé😀", .int 2, .int 3] = .ok (.text "😀") ∧
      applyFunction "charAt" [.text "aé😀", .int 3] = .ok (.text "") := by
  have nonneg : (0 : Int64) ≤ 2 := by decide
  have within : (2 : Int64).toInt < "aé😀".length := by decide
  have next : (3 : Int64).toInt = (2 : Int64).toInt + 1 := by decide
  have past : "aé😀".length ≤ (3 : Int64).toInt := by decide
  obtain ⟨third, selects, _, _, inside, _⟩ := charAt_selects_iff "aé😀" 2
  obtain ⟨⟨c, stands, rfl⟩, cuts⟩ := inside nonneg within
  obtain rfl : c = '😀' := Option.some.inj (stands.symm.trans (by decide +kernel))
  obtain ⟨none, selectsNone, _, _, _, outside⟩ := charAt_selects_iff "aé😀" 3
  obtain rfl := outside past
  exact ⟨⟨nonneg, within, next, past⟩, selects, cuts 3 next, selectsNone⟩

/-- An index just before a text selects its first character, though none stands there. -/
theorem charAt_selects_before_text :
    characterAt "abc" (-1 : Int64).toInt = "" ∧
      applyFunction "charAt" [.text "abc", .int (-1)] = .ok (.text "a") ∧
      applyFunction "charAt" [.text "abc", .int (-1)] ≠ .ok (.text "") := by
  have selected : applyFunction "charAt" [.text "abc", .int (-1)] = .ok (.text "a") := by
    rw [charAt_apply]
    exact congrArg (fun text => Except.ok (Datum.text text)) (by decide +kernel)
  refine ⟨by decide +kernel, selected, ?_⟩
  rw [selected]
  intro same
  exact absurd (Datum.text.inj (Except.ok.inj same)) (by decide)

end Script

end Sluice
