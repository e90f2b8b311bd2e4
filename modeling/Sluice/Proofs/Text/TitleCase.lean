import Mathlib
import Sluice.Text.Cutting

/-!
# Title case

A text is scanned with one bit of memory: whether a word has begun since the last blank.  Of ASCII
characters the scan raises those that it meets outside of a word and lowers those inside of one,
which leaves everything but letters as it is.  So each run of characters between blanks is given one
upper-case letter at most, where its first word character stands.
-/

set_option autoImplicit false

namespace Sluice

namespace TextCut

/-! ## Letters -/

def turned (inside : Bool) (c : Char) : Char := if inside then c.toLower else c.toUpper

theorem isAlpha_turned (inside : Bool) (c : Char) : (turned inside c).isAlpha = c.isAlpha := by
  cases inside
  · exact Char.isAlpha_toUpper_eq_isAlpha c
  · exact Char.isAlpha_toLower_eq_isAlpha c

theorem toLower_turned (inside : Bool) (c : Char) : (turned inside c).toLower = c.toLower := by
  cases inside
  · exact Char.toLower_toUpper_eq_toLower c
  · exact Char.toLower_toLower_eq_toLower c

theorem turned_turned (inside : Bool) (c : Char) :
    turned inside (turned inside c) = turned inside c := by
  cases inside
  · exact Char.toUpper_toUpper_eq_toUpper c
  · exact Char.toLower_toLower_eq_toLower c

theorem turned_of_not_letter {c : Char} (other : c.isAlpha = false) (inside : Bool) :
    turned inside c = c := by
  rw [Char.isAlpha, Bool.or_eq_false_iff] at other
  cases inside
  · exact Char.toUpper_eq_of_not_isLower (by simp [other.2])
  · exact Char.toLower_eq_of_not_isUpper (by simp [other.1])

theorem isAsciiWord_of_letter {c : Char} (letter : c.isAlpha = true) : isAsciiWord c = true := by
  simp [isAsciiWord, Char.isAlphanum, letter]

theorem not_letter_of_not_word {c : Char} (other : isAsciiWord c = false) : c.isAlpha = false := by
  cases letter : c.isAlpha with
  | false => rfl
  | true => exact (isAsciiWord_of_letter letter).symm.trans other

theorem toNat_of_letter {c : Char} (letter : c.isAlpha = true) : c.toNat < 128 := by
  simp only [Char.isAlpha, Char.isUpper, Char.isLower, Bool.or_eq_true, Bool.and_eq_true,
    decide_eq_true_eq, UInt32.le_iff_toNat_le, ge_iff_le, Char.reduceVal, UInt32.reduceToNat,
    Char.toNat_val] at letter
  omega

theorem isAsciiWord_of_blank {c : Char} (blank : isBlank c = true) : isAsciiWord c = false := by
  cases word : isAsciiWord c with
  | false => rfl
  | true =>
      simp only [isAsciiWord, Char.isAlphanum, Char.isAlpha, Char.isUpper, Char.isLower,
        Char.isDigit, Bool.or_eq_true, Bool.and_eq_true, decide_eq_true_eq, UInt32.le_iff_toNat_le,
        ge_iff_le, Char.reduceVal, UInt32.reduceToNat, Char.toNat_val] at word
      rcases word with word | rfl
      · simp only [isBlank, isBlankCode, decide_eq_true_eq] at blank
        omega
      · cases blank

theorem isAsciiWord_turned (inside : Bool) (c : Char) :
    isAsciiWord (turned inside c) = isAsciiWord c := by
  cases letter : c.isAlpha with
  | false => rw [turned_of_not_letter letter]
  | true =>
      rw [isAsciiWord_of_letter letter, isAsciiWord_of_letter]
      rw [isAlpha_turned, letter]

theorem isBlank_turned (inside : Bool) (c : Char) : isBlank (turned inside c) = isBlank c := by
  have apart {d : Char} (letter : d.isAlpha = true) : isBlank d = false := by
    cases blank : isBlank d with
    | false => rfl
    | true =>
        exact letter.symm.trans (not_letter_of_not_word (isAsciiWord_of_blank blank))
  cases letter : c.isAlpha with
  | false => rw [turned_of_not_letter letter]
  | true => rw [apart letter, apart ((isAlpha_turned inside c).trans letter)]

theorem toNat_turned {c : Char} (ascii : c.toNat < 128) (inside : Bool) :
    (turned inside c).toNat < 128 := by
  cases letter : c.isAlpha with
  | false => rwa [turned_of_not_letter letter]
  | true => exact toNat_of_letter ((isAlpha_turned inside c).trans letter)

/-! ## The scan -/

def titleFrom (inside : Bool) (text : List Char) : List Char :=
  if inside then titleTail text else titleCase text

/-- Whether the scan is inside of a word behind a character. -/
def goesOn (inside : Bool) (c : Char) : Bool := if inside then !isBlank c else isAsciiWord c

theorem goesOn_turned (inside : Bool) (c : Char) (turn : Bool) :
    goesOn inside (turned turn c) = goesOn inside c := by
  rw [goesOn, goesOn, isBlank_turned, isAsciiWord_turned]

theorem titleFrom_nil (inside : Bool) : titleFrom inside [] = [] := by
  cases inside <;> rfl

/-- One step of the scan. -/
theorem titleFrom_cons {c : Char} (ascii : c.toNat < 128) (inside : Bool) (rest : List Char) :
    titleFrom inside (c :: rest) = turned inside c :: titleFrom (goesOn inside c) rest := by
  cases inside with
  | false =>
      have word : isWordChar c = isAsciiWord c := if_pos ascii
      have upper : upperChars c = [c.toUpper] := if_pos ascii
      show titleCase (c :: rest) = c.toUpper :: titleFrom (isAsciiWord c) rest
      rw [titleCase, word, upper]
      cases begins : isAsciiWord c with
      | true => rfl
      | false =>
          have same : c.toUpper = c := turned_of_not_letter (not_letter_of_not_word begins) false
          rw [same]
          rfl
  | true =>
      have lower : lowerChars c = [c.toLower] := if_pos ascii
      show titleTail (c :: rest) = c.toLower :: titleFrom (!isBlank c) rest
      rw [titleTail, lower]
      cases blank : isBlank c with
      | false => rfl
      | true =>
          have other := not_letter_of_not_word (isAsciiWord_of_blank blank)
          have same : c.toLower = c := turned_of_not_letter other true
          rw [same]
          rfl

/-! ## Parts of a text -/

variable {text : List Char}

def endsInside (inside : Bool) (text : List Char) : Bool := text.foldl goesOn inside

theorem titleFrom_append (ascii : ∀ c ∈ text, c.toNat < 128) (inside : Bool) (rest : List Char) :
    titleFrom inside (text ++ rest) =
      titleFrom inside text ++ titleFrom (endsInside inside text) rest := by
  induction text generalizing inside with
  | nil =>
      rw [titleFrom_nil]
      rfl
  | cons c text ih =>
      obtain ⟨first, others⟩ := List.forall_mem_cons.1 ascii
      rw [List.cons_append, titleFrom_cons first, titleFrom_cons first, ih others]
      rfl

/-- The scan turns every character one way or the other. -/
theorem titleFrom_turns (ascii : ∀ c ∈ text, c.toNat < 128) (inside : Bool) :
    List.Forall₂ (fun c d => ∃ turn, d = turned turn c) text (titleFrom inside text) := by
  induction text generalizing inside with
  | nil =>
      rw [titleFrom_nil]
      exact .nil
  | cons c text ih =>
      obtain ⟨first, others⟩ := List.forall_mem_cons.1 ascii
      rw [titleFrom_cons first]
      exact .cons ⟨inside, rfl⟩ (ih others _)

/-- The scan of its own result makes the same steps. -/
theorem titleFrom_titleFrom (ascii : ∀ c ∈ text, c.toNat < 128) (inside : Bool) :
    titleFrom inside (titleFrom inside text) = titleFrom inside text := by
  induction text generalizing inside with
  | nil => rw [titleFrom_nil, titleFrom_nil]
  | cons c text ih =>
      obtain ⟨first, others⟩ := List.forall_mem_cons.1 ascii
      rw [titleFrom_cons first, titleFrom_cons (toNat_turned first inside), turned_turned,
        goesOn_turned, ih others]

/-- Behind a blank no word has begun. -/
theorem endsInside_of_blank (parted : ∀ c, text.getLast? = some c → isBlank c = true) :
    endsInside false text = false := by
  rcases List.eq_nil_or_concat text with rfl | ⟨front, last, rfl⟩
  · rfl
  · have blank := parted last (by simp)
    rw [endsInside, List.concat_eq_append, List.foldl_append, List.foldl_cons, List.foldl_nil]
    cases List.foldl goesOn false front with
    | false => exact isAsciiWord_of_blank blank
    | true => simp [goesOn, blank]

theorem titleFrom_lead (ascii : ∀ c ∈ text, c.toNat < 128)
    (lead : ∀ c ∈ text, isAsciiWord c = false) :
    titleFrom false text = text ∧ endsInside false text = false := by
  induction text with
  | nil => exact ⟨titleFrom_nil false, rfl⟩
  | cons c text ih =>
      obtain ⟨first, others⟩ := List.forall_mem_cons.1 ascii
      obtain ⟨none, noOthers⟩ := List.forall_mem_cons.1 lead
      obtain ⟨same, outside⟩ := ih others noOthers
      have stays : goesOn false c = false := none
      constructor
      · rw [titleFrom_cons first, stays, same, turned_of_not_letter (not_letter_of_not_word none)]
      · rw [endsInside, List.foldl_cons, stays]
        exact outside

theorem titleFrom_tail (ascii : ∀ c ∈ text, c.toNat < 128)
    (solid : ∀ c ∈ text, isBlank c = false) : titleFrom true text = text.map Char.toLower := by
  induction text with
  | nil => exact titleFrom_nil true
  | cons c text ih =>
      obtain ⟨first, others⟩ := List.forall_mem_cons.1 ascii
      obtain ⟨here, further⟩ := List.forall_mem_cons.1 solid
      have stays : goesOn true c = true := by simp [goesOn, here]
      rw [titleFrom_cons first, stays, ih others further, List.map_cons]
      rfl

theorem titleFrom_word {lead tail : List Char} {first : Char}
    (ascii : ∀ c ∈ lead ++ first :: tail, c.toNat < 128)
    (leads : ∀ c ∈ lead, isAsciiWord c = false) (begins : isAsciiWord first = true)
    (solid : ∀ c ∈ tail, isBlank c = false) :
    titleFrom false (lead ++ first :: tail) =
      lead ++ first.toUpper :: tail.map Char.toLower := by
  obtain ⟨asciiLead, asciiWord⟩ := List.forall_mem_append.1 ascii
  obtain ⟨asciiFirst, asciiTail⟩ := List.forall_mem_cons.1 asciiWord
  obtain ⟨same, outside⟩ := titleFrom_lead asciiLead leads
  have enters : goesOn false first = true := begins
  rw [titleFrom_append asciiLead, same, outside, titleFrom_cons asciiFirst, enters,
    titleFrom_tail asciiTail solid]
  rfl

end TextCut

/-! ## The whole text -/

/-- Some characters of a text without a blank, with what is in front of them and behind them.  They
begin where the text does or behind a blank, and they end where the text does or before one. -/
structure IsRun (before run after : List Char) : Prop where
  solid : ∀ c ∈ run, isBlank c = false
  parted : ∀ c, before.getLast? = some c → isBlank c = true
  ended : ∀ c, after.head? = some c → isBlank c = true

/-- A text has been given title case: it is as long, other characters than letters are in place, and
in each run the first letter, digit or underscore is raised, what leads to it is kept and what
follows it is lowered. -/
structure IsTitled (text titled : List Char) : Prop where
  length : titled.length = text.length
  others : ∀ (position : Nat) (c : Char), text[position]? = some c → c.isAlpha = false →
    titled[position]? = some c
  words : ∀ before lead first tail after, text = before ++ (lead ++ first :: tail) ++ after →
    IsRun before (lead ++ first :: tail) after → (∀ c ∈ lead, isAsciiWord c = false) →
      isAsciiWord first = true → ∃ before' after',
        titled = before' ++ (lead ++ first.toUpper :: tail.map Char.toLower) ++ after' ∧
          before'.length = before.length

open TextCut

theorem titleFrom_isTitled {text : List Char} (ascii : ∀ c ∈ text, c.toNat < 128) :
    IsTitled text (titleFrom false text) := by
  have turns := titleFrom_turns ascii false
  refine ⟨turns.length_eq.symm, fun position c stands other => ?_, ?_⟩
  · obtain ⟨within, rfl⟩ := List.getElem?_eq_some_iff.1 stands
    have within' : position < (titleFrom false text).length := turns.length_eq ▸ within
    obtain ⟨turn, same⟩ := (List.forall₂_iff_get.1 turns).2 position within within'
    rw [List.getElem?_eq_getElem within']
    exact congrArg some (same.trans (turned_of_not_letter other turn))
  · rintro before lead first tail after rfl run leads begins
    obtain ⟨asciiFront, _⟩ := List.forall_mem_append.1 ascii
    obtain ⟨asciiBefore, asciiRun⟩ := List.forall_mem_append.1 asciiFront
    have solid : ∀ c ∈ tail, isBlank c = false := fun c member => run.solid c (by simp [member])
    refine ⟨titleFrom false before,
      titleFrom (endsInside false (before ++ (lead ++ first :: tail))) after, ?_,
      (titleFrom_turns asciiBefore false).length_eq.symm⟩
    rw [titleFrom_append asciiFront, titleFrom_append asciiBefore, endsInside_of_blank run.parted,
      titleFrom_word asciiRun leads begins solid]

/-- Title case changes an ASCII text in nothing but the case of its letters: where words begin they
are raised and further on in a run they are lowered.  Given again it changes nothing. -/
theorem titleText_changes_case (s : String) (ascii : ∀ c ∈ s.toList, c.toNat < 128) :
    IsTitled s.toList (titleText s).toList ∧
      titleText (titleText s) = titleText s ∧
      (titleText s).toList.map Char.toLower = s.toList.map Char.toLower := by
  have titled : (titleText s).toList = titleFrom false s.toList := String.toList_ofList
  refine ⟨?_, ?_, ?_⟩
  · rw [titled]
    exact titleFrom_isTitled ascii
  · rw [titleText, titled]
    exact congrArg String.ofList (titleFrom_titleFrom ascii false)
  · rw [titled, ← List.forall₂_eq_eq_eq, List.forall₂_map_left_iff, List.forall₂_map_right_iff]
    refine (titleFrom_turns ascii false).flip.imp fun d c => ?_
    rintro ⟨turn, rfl⟩
    exact toLower_turned turn c

/-- Quotes stand in front of a word and within one, and a word begins with a digit. -/
theorem titleText_changes_case_quoted :
    let s := "'hI o'NEIL 2ND"
    (∀ c ∈ s.toList, c.toNat < 128) ∧
      IsRun ['\'', 'h', 'I', ' '] ['o', '\'', 'N', 'E', 'I', 'L'] [' ', '2', 'N', 'D'] ∧
      titleText s = "'Hi O'neil 2nd" ∧
      IsTitled s.toList (titleText s).toList ∧ titleText (titleText s) = titleText s := by
  intro s
  have letters : s.toList =
      ['\'', 'h', 'I', ' ', 'o', '\'', 'N', 'E', 'I', 'L', ' ', '2', 'N', 'D'] :=
    String.toList_ofList
  have ascii : ∀ c ∈ s.toList, c.toNat < 128 := by
    rw [letters]
    simp
  obtain ⟨titled, again, _⟩ := titleText_changes_case s ascii
  refine ⟨ascii, ⟨by simp [isBlank, isBlankCode], ?_, ?_⟩, ?_, titled, again⟩
  · rintro c ⟨⟩
    rfl
  · rintro c ⟨⟩
    rfl
  · rw [titleText, letters]
    exact congrArg String.ofList (by decide +kernel)

end Sluice
