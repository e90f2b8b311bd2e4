import Sluice.Proofs.Table.Slices
import Sluice.Proofs.Text.Lines

/-!
# What stands between the lines

Columns of fixed width are read alike whether lines end with a line feed or with a carriage return
and a line feed, and with any blank lines below the first line.  A failure names the number of its
line, with all lines counted, so that blank lines move it down.
-/

set_option autoImplicit false

namespace Sluice

open TextCut

/-! ## Numbers of lines -/

namespace Failure

def renumber (place : Nat → Nat) : Failure → Failure
  | .outOfBounds field start stop line length => .outOfBounds field start stop (place line) length
  | failure => failure

end Failure

theorem Conversion.renumber_convert (conversion : Conversion) (raw : String) (place : Nat → Nat) :
    (conversion.convert raw).mapError (Failure.renumber place) = conversion.convert raw := by
  rw [convert]
  cases conversion.datatype with
  | text => rfl
  | integer => cases readInt raw <;> rfl
  | decimal => cases readDecimal raw <;> rfl
  | date => cases readMoment conversion.format (trimText raw) <;> rfl

theorem FixedWidthColumn.renumber_slice (column : FixedWidthColumn) (line : List Char)
    (number : Nat) (place : Nat → Nat) :
    (column.slice line number).mapError (Failure.renumber place) =
      column.slice line (place number) := by
  rw [slice, slice]
  cases bytes? line column.start column.stop <;> rfl

namespace FixedWidthFormat

variable {format : FixedWidthFormat}

theorem renumber_readColumns (line : List Char) (number : Nat) (place : Nat → Nat)
    (columns : List FixedWidthColumn) (record : Record) :
    (readColumns line number columns record).mapError (Failure.renumber place) =
      readColumns line (place number) columns record := by
  induction columns generalizing record with
  | nil => rfl
  | cons column rest ih =>
      simp only [readColumns, Outcome.mapError_bind, column.renumber_slice,
        column.conversion.renumber_convert, ih]

theorem renumber_readLine (line : List Char) (number : Nat) (place : Nat → Nat) :
    (format.readLine line number).mapError (Failure.renumber place) =
      format.readLine line (place number) :=
  renumber_readColumns line number place format.columns .empty

/-! ## Blank lines -/

theorem blank_dropReturn {line : List Char} (blank : line.all isBlank = true) :
    (dropReturn line).all isBlank = true := by
  rw [List.all_eq_true] at blank ⊢
  intro c member
  rw [dropReturn] at member
  split at member
  · exact blank c ((List.dropLast_subset line) member)
  · exact blank c member

theorem readLines_blank {fault : Option StreamFault} {blanks : List (List Char)}
    (blank : ∀ line ∈ blanks, line.all isBlank = true) {number : Nat} (below : 1 < number)
    (rest : List (Except StreamFault (List Char))) :
    format.readLines fault number (blanks.map .ok ++ rest) =
      format.readLines fault (number + blanks.length) rest := by
  induction blanks generalizing number with
  | nil => rfl
  | cons line others ih =>
      obtain ⟨blankLine, blankRest⟩ := List.forall_mem_cons.1 blank
      have notHeader : ¬ (number = 1 ∧ format.hasHeader = true) := fun header => by omega
      rw [List.map_cons, List.cons_append, readLines, if_neg notHeader]
      dsimp only
      rw [if_pos (blank_dropReturn blankLine), ih blankRest (by omega), List.length_cons]
      congr 1
      omega

/-- Lines, each with the blank lines that are put in behind it. -/
abbrev Spaced := List (List Char × List (List Char))

namespace Spaced

def bare (spaced : Spaced) : List (List Char) := spaced.map Prod.fst

def filled (spaced : Spaced) : List (List Char) := spaced.flatMap fun group => group.1 :: group.2

def blanksBehind (spaced : Spaced) (count : Nat) : Nat :=
  ((spaced.take count).flatMap Prod.snd).length

/-- The number of a line once the blank lines are put in. -/
def place (spaced : Spaced) (number : Nat) : Nat := number + spaced.blanksBehind (number - 1)

end Spaced

/-- A line that has moved is read as before if what follows it is. -/
theorem readLines_moved {line : List Char} {rest others : List (Except StreamFault (List Char))}
    {place : Nat → Nat} {number shifted : Nat} (heads : number = 1 ↔ shifted = 1)
    (moved : place number = shifted)
    (following : format.readLines none (shifted + 1) others =
      (format.readLines none (number + 1) rest).mapError (Failure.renumber place)) :
    format.readLines none shifted (.ok line :: others) =
      (format.readLines none number (.ok line :: rest)).mapError (Failure.renumber place) := by
  rw [readLines, readLines]
  by_cases header : number = 1 ∧ format.hasHeader = true
  · rw [if_pos header, if_pos ⟨heads.1 header.1, header.2⟩]
    exact following
  · have headerToo : ¬ (shifted = 1 ∧ format.hasHeader = true) := by
      rwa [← heads]
    rw [if_neg header, if_neg headerToo]
    dsimp only
    split
    · exact following
    · simp only [Outcome.mapError_bind, renumber_readLine, moved, following]
      rfl

theorem readLines_filled {spaced : Spaced}
    (blank : ∀ group ∈ spaced, ∀ line ∈ group.2, line.all isBlank = true) (place : Nat → Nat)
    {number shifted : Nat} (heads : number = 1 ↔ shifted = 1) (counted : 0 < number)
    (countedToo : 0 < shifted) (moves : ∀ offset < spaced.length,
      place (number + offset) = shifted + offset + spaced.blanksBehind offset) :
    format.readLines none shifted (spaced.filled.map .ok) =
      (format.readLines none number (spaced.bare.map .ok)).mapError (Failure.renumber place) := by
  induction spaced generalizing number shifted with
  | nil => rfl
  | cons group rest ih =>
      obtain ⟨line, blanks⟩ := group
      obtain ⟨blankHere, blankRest⟩ := List.forall_mem_cons.1 blank
      have divides : (Spaced.filled ((line, blanks) :: rest)).map .ok =
          (.ok line :: (blanks.map .ok ++ (Spaced.filled rest).map .ok) :
            List (Except StreamFault (List Char))) := by
        simp [Spaced.filled]
      rw [divides]
      refine readLines_moved heads (moves 0 (Nat.succ_pos _)) ?_
      -- None of the lines below is the header, under either number.
      rw [readLines_blank blankHere (by omega)]
      refine ih blankRest (by omega) (by omega) (by omega) fun offset less => ?_
      have moved := moves (offset + 1) (Nat.succ_lt_succ less)
      simp only [Spaced.blanksBehind, List.take_succ_cons, List.flatMap_cons, List.length_append]
        at moved ⊢
      rw [Nat.add_assoc, Nat.add_comm 1, moved]
      omega

/-! ## Line ends -/

theorem dropReturn_of_not_mem {line : List Char} (noReturn : '\r' ∉ line) :
    dropReturn line = line :=
  if_neg fun last => noReturn (List.mem_of_getLast? last)

theorem dropReturn_concat (line : List Char) : dropReturn (line ++ ['\r']) = line := by
  rw [dropReturn, List.getLast?_concat, if_pos rfl, List.dropLast_concat]

theorem exists_returns (line : List Char) :
    ∃ returns, line = dropReturn line ++ List.replicate returns '\r' := by
  rw [dropReturn]
  split
  · next last => exact ⟨1, (List.dropLast_append_getLast? _ last).symm⟩
  · exact ⟨0, (List.append_nil _).symm⟩

def withReturns (text : List Char) : List Char :=
  text.flatMap fun c => if c = '\n' then ['\r', '\n'] else [c]

theorem withReturns_unbroken {line : List Char} (unbroken : '\n' ∉ line) :
    withReturns line = line := by
  induction line with
  | nil => rfl
  | cons c rest ih =>
      simp only [List.mem_cons, not_or] at unbroken
      rw [withReturns, List.flatMap_cons, if_neg (Ne.symm unbroken.1)]
      exact congrArg (List.cons c) (ih unbroken.2)

theorem withReturns_ended {line : List Char} (unbroken : '\n' ∉ line) (rest : List Char) :
    withReturns (line ++ '\n' :: rest) = (line ++ ['\r']) ++ '\n' :: withReturns rest := by
  have same := withReturns_unbroken unbroken
  rw [withReturns] at same
  rw [withReturns, List.flatMap_append, same, List.flatMap_cons, if_pos rfl, withReturns]
  simp

/-- Carriage returns in front of line feeds are not delivered. -/
theorem lines_withReturns {text : List Char} {lines : List (List Char)} (has : HasLines text lines)
    (noReturn : '\r' ∉ text) : Delivery.lines ⟨Utf8.encode (withReturns text), none⟩ =
      Delivery.lines ⟨Utf8.encode text, none⟩ := by
  induction has with
  | nothing => rfl
  | unended unbroken _ => rw [withReturns_unbroken unbroken]
  | @ended line rest lines unbroken following ih =>
      simp only [List.mem_append, List.mem_cons, not_or] at noReturn
      have unbrokenToo : '\n' ∉ line ++ ['\r'] := by simpa using unbroken
      have kept := dropReturn_of_not_mem noReturn.1
      have dropped := dropReturn_concat line
      rw [dropReturn] at kept dropped
      rw [withReturns_ended unbroken, Delivery.lines_ended unbrokenToo,
        Delivery.lines_ended unbroken, dropped, kept, ih noReturn.2.2]

/-- Lines are read as they stand in the text if a carriage return is only in blank ones. -/
theorem readLines_delivered {text : List Char} {lines : List (List Char)}
    (has : HasLines text lines) (plain : ∀ line ∈ lines, '\r' ∉ line ∨ line.all isBlank = true)
    (number : Nat) :
    format.readLines none number (Delivery.lines ⟨Utf8.encode text, none⟩) =
      format.readLines none number (lines.map .ok) := by
  induction has generalizing number with
  | nothing => rfl
  | unended unbroken nonempty => rw [Delivery.lines_unended unbroken nonempty]; rfl
  | @ended line rest lines unbroken following ih =>
      obtain ⟨plainHere, plainRest⟩ := List.forall_mem_cons.1 plain
      have delivered : Delivery.lines ⟨Utf8.encode (line ++ '\n' :: rest), none⟩ =
          .ok (dropReturn line) :: Delivery.lines ⟨Utf8.encode rest, none⟩ :=
        Delivery.lines_ended unbroken rest none
      rw [delivered, List.map_cons, readLines, readLines, ih plainRest]
      -- A return is dropped where lines are delivered and again where they are read.
      rcases plainHere with noReturn | blank
      · have kept := dropReturn_of_not_mem noReturn
        simp only [kept]
      · dsimp only
        rw [if_pos (blank_dropReturn (blank_dropReturn blank)), if_pos (blank_dropReturn blank)]

/-! ## Columns out of bounds -/

variable {fault : Option StreamFault} {field : String} {start stop number reported length : Nat}

theorem number_of_outOfBounds {line : List Char}
    (fails : format.readLine line number = .error (.outOfBounds field start stop reported length)) :
    reported = number ∧ ∃ column ∈ format.columns,
      column.Gives line number (.error (.outOfBounds field start stop number length)) := by
  obtain ⟨position, column, stands, gives, _⟩ := readLine_eq_error.1 fails
  cases gives with
  | outside unfit => exact ⟨rfl, column, List.mem_of_getElem? stands, .outside unfit⟩
  | @refused cut _ cuts refuses =>
      -- A failed conversion names no line, so it stays as it is when lines are renumbered.
      have same := column.conversion.renumber_convert (String.ofList (trimChars cut)) Nat.succ
      rw [refuses] at same
      injection same with same
      injection same with _ _ _ same
      exact (Nat.succ_ne_self _ same).elim

/-- What fails is the first line, unless it is a header that is not read, or a line after it. -/
theorem readLines_cons_eq_error {first : Except StreamFault (List Char)}
    {rest : List (Except StreamFault (List Char))} {failure : Failure}
    (fails : format.readLines fault number (first :: rest) = .error failure) :
    format.readLines fault (number + 1) rest = .error failure ∨
      ¬ (number = 1 ∧ format.hasHeader = true) ∧
        ((∃ met, first = .error met ∧ failure = .stream met) ∨
          ∃ line, first = .ok line ∧
            format.readLine (dropReturn line) number = .error failure) := by
  cases first with
  | error met =>
      rw [readLines] at fails
      split at fails
      · exact .inl fails
      · next notHeader =>
        exact .inr ⟨notHeader, .inl ⟨met, rfl, (Except.error.inj fails).symm⟩⟩
  | ok line =>
      rw [readLines] at fails
      split at fails
      · exact .inl fails
      · next notHeader =>
        dsimp only at fails
        split at fails
        · exact .inl fails
        · rcases Outcome.bind_eq_error.1 fails with reads | ⟨_, _, fails⟩
          · exact .inr ⟨notHeader, .inr ⟨line, rfl, reads⟩⟩
          · rcases Outcome.bind_eq_error.1 fails with later | ⟨_, _, done⟩
            · exact .inl later
            · cases done

theorem readLines_outOfBounds {lines : List (Except StreamFault (List Char))}
    (fails : format.readLines fault number lines =
      .error (.outOfBounds field start stop reported length)) :
    ∃ (offset : Nat) (line : List Char), lines[offset]? = some (.ok line) ∧
      reported = number + offset ∧ ¬ (reported = 1 ∧ format.hasHeader = true) ∧
        ∃ column ∈ format.columns, column.Gives (dropReturn line) reported
          (.error (.outOfBounds field start stop reported length)) := by
  induction lines generalizing number with
  | nil => cases fault <;> cases fails
  | cons first rest ih =>
      rcases readLines_cons_eq_error fails with
        later | ⟨notHeader, ⟨met, _, same⟩ | ⟨line, rfl, reads⟩⟩
      · obtain ⟨offset, line, stands, counted, found⟩ := ih later
        exact ⟨offset + 1, line, stands, by omega, found⟩
      · cases same
      · obtain ⟨rfl, gives⟩ := number_of_outOfBounds reads
        exact ⟨0, line, rfl, rfl, notHeader, gives⟩

/-- A failure to cut out a column is about the line whose number it has, all lines counted. -/
theorem readFile_outOfBounds {bytes : Bytes} (fails : format.readFile ⟨bytes, fault⟩ =
      .error (.outOfBounds field start stop number length)) :
    ¬ (number = 1 ∧ format.hasHeader = true) ∧ ∃ (line : List Char) (returns : Nat),
      LineAt bytes number (Utf8.encode (line ++ List.replicate returns '\r')) ∧
        ∃ column ∈ format.columns, column.Gives line number
          (.error (.outOfBounds field start stop number length)) := by
  obtain ⟨offset, shown, delivered, rfl, notHeader, gives⟩ := readLines_outOfBounds fails
  obtain ⟨returns, stands⟩ := Delivery.lineAt_of_delivered delivered
  obtain ⟨last, whole⟩ := exists_returns shown
  refine ⟨notHeader, dropReturn shown, last + returns, ?_, gives⟩
  rw [List.replicate_add, ← List.append_assoc, ← whole, Nat.add_comm]
  exact stands

/-! ## Files -/

namespace Spaced

structure Fills (spaced : Spaced) (text filledText : List Char) : Prop where
  bare : HasLines text spaced.bare
  filled : HasLines filledText spaced.filled
  blank : ∀ group ∈ spaced, ∀ line ∈ group.2, line.all isBlank = true

end Spaced

theorem readFile_withReturns {text : List Char} (noReturn : '\r' ∉ text) :
    format.readFile ⟨Utf8.encode (withReturns text), none⟩ =
      format.readFile ⟨Utf8.encode text, none⟩ := by
  obtain ⟨lines, has⟩ := exists_hasLines text
  rw [readFile, readFile, lines_withReturns has noReturn]

theorem readFile_filled {spaced : Spaced} {text filledText : List Char}
    (fills : spaced.Fills text filledText) (noReturn : '\r' ∉ text) :
    format.readFile ⟨Utf8.encode filledText, none⟩ =
      (format.readFile ⟨Utf8.encode text, none⟩).mapError (Failure.renumber spaced.place) := by
  have plain := fills.bare.not_mem noReturn
  have plainToo : ∀ line ∈ spaced.filled, '\r' ∉ line ∨ line.all isBlank = true := by
    intro line member
    obtain ⟨group, memberToo, stands⟩ := List.mem_flatMap.1 member
    rcases List.mem_cons.1 stands with rfl | put
    · exact .inl (plain _ (List.mem_map_of_mem memberToo))
    · exact .inr (fills.blank group memberToo line put)
  rw [readFile, readFile, readLines_delivered fills.filled plainToo,
    readLines_delivered fills.bare fun line member => .inl (plain line member)]
  refine readLines_filled fills.blank spaced.place Iff.rfl Nat.one_pos Nat.one_pos ?_
  intro offset _
  rw [Spaced.place, Nat.add_sub_cancel_left]

/-- A text without carriage returns is read alike with a carriage return in front of each of its
line feeds, and with blank lines anywhere behind its first line, but that the number of the line in
a failure then counts these too.  Whatever bytes are read, a column that is out of bounds is so on
the line of the number in the failure, which counts the header and blank lines. -/
theorem line_ends_irrelevant (format : FixedWidthFormat) :
    (∀ text : List Char, '\r' ∉ text →
      format.readFile ⟨Utf8.encode (withReturns text), none⟩ =
          format.readFile ⟨Utf8.encode text, none⟩ ∧
        ∀ (spaced : Spaced) (filledText : List Char), spaced.Fills text filledText →
          format.readFile ⟨Utf8.encode filledText, none⟩ =
            (format.readFile ⟨Utf8.encode text, none⟩).mapError
              (Failure.renumber spaced.place)) ∧
    ∀ (bytes : Bytes) (fault : Option StreamFault) (field : String)
      (start stop number length : Nat), format.readFile ⟨bytes, fault⟩ =
        .error (.outOfBounds field start stop number length) →
      ¬ (number = 1 ∧ format.hasHeader = true) ∧ ∃ (line : List Char) (returns : Nat),
        LineAt bytes number (Utf8.encode (line ++ List.replicate returns '\r')) ∧
          ∃ column ∈ format.columns, column.Gives line number
            (.error (.outOfBounds field start stop number length)) :=
  ⟨fun _ noReturn => ⟨readFile_withReturns noReturn, fun _ _ fills =>
    readFile_filled fills noReturn⟩, fun _ _ _ _ _ _ _ fails => readFile_outOfBounds fails⟩

/-- The last line is too short for the column, and two of three blank lines are put in above it. -/
theorem line_ends_irrelevant_short :
    let format : FixedWidthFormat := ⟨true, [⟨0, 3, ⟨.text, "", "a"⟩⟩]⟩
    let header : List Char := ['h', 'd']
    let long : List Char := ['a', 'é']
    let short : List Char := ['x', 'y']
    let text := header ++ '\n' :: (long ++ '\n' :: short)
    let filledText := header ++ '\n' :: ([] ++ '\n' :: ([' ', '\r'] ++ '\n' :: (long ++ '\n' ::
      (short ++ '\n' :: ['\t']))))
    format.readFile ⟨Utf8.encode text, none⟩ = .error (.outOfBounds "a" 0 3 3 2) ∧
      format.readFile ⟨Utf8.encode (withReturns text), none⟩ = .error (.outOfBounds "a" 0 3 3 2) ∧
      format.readFile ⟨Utf8.encode filledText, none⟩ = .error (.outOfBounds "a" 0 3 5 2) ∧
      ∃ (line : List Char) (returns : Nat), LineAt (Utf8.encode filledText) 5
        (Utf8.encode (line ++ List.replicate returns '\r')) := by
  intro format header long short text filledText
  obtain ⟨alike, located⟩ := line_ends_irrelevant format
  have noReturn : '\r' ∉ text := by decide
  have fails : format.readFile ⟨Utf8.encode text, none⟩ = .error (.outOfBounds "a" 0 3 3 2) := by
    decide +kernel
  have fills : Spaced.Fills [(header, [[], [' ', '\r']]), (long, []), (short, [['\t']])]
      text filledText :=
    ⟨.ended (by decide) (.ended (by decide) (.unended (by decide) (by decide))),
      .ended (by decide) (.ended (by decide) (.ended (by decide) (.ended (by decide)
        (.ended (by decide) (.unended (by decide) (by decide)))))), by decide⟩
  obtain ⟨returned, filled⟩ := alike text noReturn
  have shifted : format.readFile ⟨Utf8.encode filledText, none⟩ =
      .error (.outOfBounds "a" 0 3 5 2) := by
    rw [filled _ _ fills, fails]
    rfl
  obtain ⟨_, line, returns, stands, _⟩ := located _ _ _ _ _ _ _ shifted
  exact ⟨fails, returned.trans fails, shifted, line, returns, stands⟩

end FixedWidthFormat

end Sluice
