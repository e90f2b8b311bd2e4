import Sluice.Proofs.Time.Calendar
import Sluice.Proofs.Time.Digits
import Sluice.Proofs.Time.Keeping
import Sluice.Table.Column

/-!
# Moments survive their texts

The text of a moment is read as that moment.  The date, the time of day and the second, sixty in a
leap second, stand in fixed places; the fraction and the offset follow, each as short as it can be,
and the reader tells by the character that it comes to how long they are.
-/

set_option autoImplicit false

namespace Sluice

open Moment (padded)

/-! ## Offsets -/

/-- Hours and minutes after a sign. -/
theorem TimeScan.offset_signed {sign : Char} {negative : Bool} {hours minutes : Nat}
    (reads : offsetSign (sign :: padded 2 hours ++ ':' :: padded 2 minutes) =
      .ok (negative, padded 2 hours ++ ':' :: padded 2 minutes))
    (notZulu : sign ≠ 'Z' ∧ sign ≠ 'z') (hoursFit : hours < 100) (minutesFit : minutes < 60) :
    offset .required true false (sign :: padded 2 hours ++ ':' :: padded 2 minutes) =
      .ok ((if negative then -((hours : Int) * 3600 + minutes * 60)
        else (hours : Int) * 3600 + minutes * 60), []) := by
  have readsHours := twoDigits_padded hoursFit (':' :: padded 2 minutes)
  have readsMinutes := twoDigits_padded (by omega : minutes < 100) []
  rw [List.append_nil] at readsMinutes
  have twoWide : minutes < tenTo 2 := Nat.lt_trans minutesFit (by decide)
  have long := length_le_utf8Length (padded 2 minutes)
  rw [Moment.length_padded twoWide] at long
  have enough : ¬ utf8Length (padded 2 minutes) < 2 := by omega
  unfold offset
  split
  · next same =>
      rw [List.cons_append] at same
      exact absurd (List.cons.inj same).1 notZulu.1
  · next same =>
      rw [List.cons_append] at same
      exact absurd (List.cons.inj same).1 notZulu.2
  · simp only [reads, Outcome.ok_bind, readsHours, OffsetColon.skip, if_neg enough, readsMinutes,
      if_neg (Nat.not_le.2 minutesFit)]
    rfl

theorem TimeScan.offset_offsetText {seconds : Int} (whole : seconds % 60 = 0)
    (short : -86340 ≤ seconds ∧ seconds ≤ 86340) :
    offset .required true false (Moment.offsetText seconds) = .ok (seconds, []) := by
  have hours : (seconds.natAbs + 30) / 60 / 60 < 100 := by omega
  have minutes : (seconds.natAbs + 30) / 60 % 60 < 60 := by omega
  rw [Moment.offsetText]
  split
  · next zero =>
      rw [zero]
      rfl
  · dsimp only
    split
    · rw [offset_signed rfl (by decide) hours minutes, if_pos rfl]
      congr 2
      omega
    · rw [offset_signed rfl (by decide) hours minutes, if_neg Bool.false_ne_true]
      congr 2
      omega

/-! ## Fractions -/

theorem offsetText_endsDigits (offset : Int) : TimeScan.EndsDigits (Moment.offsetText offset) := by
  intro c head
  rw [Moment.offsetText] at head
  split at head
  · cases head
    rfl
  · dsimp only at head
    split at head <;> cases head <;> rfl

def readFraction : List Char → Except TimeFault (Nat × List Char)
  | '.' :: rest => TimeScan.nanoseconds rest
  | rest => pure (0, rest)

theorem readFraction_offsetText (offset : Int) :
    readFraction (Moment.offsetText offset) = .ok (0, Moment.offsetText offset) := by
  rw [Moment.offsetText]
  split
  · rfl
  · dsimp only
    split <;> rfl

theorem readFraction_fractionText {nanos : Nat} (part : nanos < Moment.nanosPerSecond)
    (offset : Int) : readFraction (Moment.fractionText nanos ++ Moment.offsetText offset) =
      .ok (nanos, Moment.offsetText offset) := by
  have ends := offsetText_endsDigits offset
  rw [Moment.nanosPerSecond] at part
  have millisFit : nanos / 1000000 < tenTo 3 := Nat.div_lt_of_lt_mul part
  have microsFit : nanos / 1000 < tenTo 6 := Nat.div_lt_of_lt_mul part
  have nanosFit : nanos < tenTo 9 := part
  rw [Moment.fractionText]
  split
  · next none =>
      rw [none]
      exact readFraction_offsetText offset
  · split
    · next millis =>
        have whole : nanos / 1000000 * tenTo (9 - 3) = nanos := Nat.div_mul_cancel (by omega)
        rw [List.cons_append, readFraction,
          TimeScan.nanoseconds_padded (by decide) millisFit ends, whole]
    · split
      · next micros =>
          have whole : nanos / 1000 * tenTo (9 - 6) = nanos := Nat.div_mul_cancel (by omega)
          rw [List.cons_append, readFraction,
            TimeScan.nanoseconds_padded (by decide) microsFit ends, whole]
      · have whole : nanos * tenTo (9 - 9) = nanos := Nat.mul_one nanos
        rw [List.cons_append, readFraction,
          TimeScan.nanoseconds_padded (by decide) nanosFit ends, whole]

/-! ## Fixed places -/

namespace InternetTime

def digitAt (text : List Char) (place : Nat) : Except TimeFault Nat :=
  match text[place]?.bind digitValue? with
  | some d => .ok d
  | none => .error .invalid

def pairAt (text : List Char) (place : Nat) : Except TimeFault Nat := do
  return 10 * (← digitAt text place) + (← digitAt text (place + 1))

def markAt (text : List Char) (place : Nat) (allowed : List Char) : Except TimeFault Unit :=
  match text[place]? with
  | some c => if allowed.contains c then .ok () else .error .invalid
  | none => .error .invalid

def zoned (day : Int) (second leap : Nat) (text : List Char) : Except TimeFault Moment := do
  let (nanos, rest) ← match text with
    | '.' :: rest => TimeScan.nanoseconds rest
    | rest => pure (0, rest)
  let (offset, rest) ← TimeScan.offset .required true false rest
  if !rest.isEmpty then throw .tooLong
  if offset ≤ -DateFields.offsetLimit ∨ DateFields.offsetLimit ≤ offset then throw .outOfRange
  return Moment.ofLocal day second (leap + nanos) offset

theorem reads_places (raw : String) : readInternetTime raw = (do
    let text := raw.toList
    if TimeScan.utf8Length text < 19 then throw .tooShort
    let century ← pairAt text 0
    let year ← pairAt text 2
    markAt text 4 ['-']
    let month ← pairAt text 5
    markAt text 7 ['-']
    let day ← pairAt text 8
    let day ← DateFields.orOutOfRange (Calendar.dayOf? (100 * century + year) month day)
    markAt text 10 ['T', 't', ' ']
    let hour ← pairAt text 11
    markAt text 13 [':']
    let minute ← pairAt text 14
    markAt text 16 [':']
    let second ← pairAt text 17
    if 23 < hour ∨ 59 < minute ∨ 60 < second then throw .outOfRange
    zoned day (hour * 3600 + minute * 60 + (DateFields.toldSecond second).1)
      (DateFields.toldSecond second).2 (text.drop 19)) := by
  rfl

@[simp]
theorem pairAt_cons (c : Char) (text : List Char) (place : Nat) :
    pairAt (c :: text) (place + 1) = pairAt text place := rfl

@[simp]
theorem markAt_cons (c : Char) (text : List Char) (place : Nat) (allowed : List Char) :
    markAt (c :: text) (place + 1) allowed = markAt text place allowed := rfl

theorem pairAt_padded {n : Nat} (small : n < 100) (rest : List Char) :
    pairAt (Nat.digitChar (n / 10) :: Nat.digitChar (n % 10) :: rest) 0 = .ok n := by
  have tens : digitValue? (Nat.digitChar (n / 10)) = some (n / 10) :=
    digitValue?_digitChar (by omega)
  have ones : digitValue? (Nat.digitChar (n % 10)) = some (n % 10) :=
    digitValue?_digitChar (by omega)
  have whole := Nat.div_add_mod n 10
  simp only [pairAt, digitAt, List.getElem?_cons_zero, List.getElem?_cons_succ, Option.bind_some,
    tens, ones, Outcome.ok_bind, whole]
  rfl

theorem markAt_mark (mark : Char) (rest others : List Char) :
    markAt (mark :: rest) 0 (mark :: others) = .ok () := by
  simp [markAt]

theorem zoned_eq (day : Int) (second leap : Nat) (text : List Char) :
    zoned day second leap text = (do
      let (nanos, rest) ← readFraction text
      let (offset, rest) ← TimeScan.offset .required true false rest
      if !rest.isEmpty then throw .tooLong
      if offset ≤ -DateFields.offsetLimit ∨ DateFields.offsetLimit ≤ offset then throw .outOfRange
      return Moment.ofLocal day second (leap + nanos) offset) := by
  unfold zoned readFraction
  split <;> rfl

theorem zoned_eq_ok {day : Int} {second leap : Nat} {text : List Char} {moment : Moment} :
    zoned day second leap text = .ok moment ↔ ∃ nanos rest offset,
      readFraction text = .ok (nanos, rest) ∧
      TimeScan.offset .required true false rest = .ok (offset, []) ∧
      (-DateFields.offsetLimit < offset ∧ offset < DateFields.offsetLimit) ∧
      Moment.ofLocal day second (leap + nanos) offset = moment := by
  simp only [zoned_eq, Outcome.bind_eq_ok, Outcome.checked_eq_ok, Prod.exists]
  constructor
  · rintro ⟨nanos, rest, fraction, offset, left, zone, ended, range, same⟩
    obtain rfl : left = [] := by simpa using ended
    exact ⟨nanos, rest, offset, fraction, zone, by omega, Except.ok.inj same⟩
  · rintro ⟨nanos, rest, offset, fraction, zone, range, same⟩
    exact ⟨nanos, rest, fraction, offset, [], zone, by simp, by omega, congrArg Except.ok same⟩

/-- A text in the fixed places is read as the date and time that stand there. -/
theorem reads_layout {raw : String} {century year month day hour minute second : Nat}
    {tail rest : List Char} {number offset : Int} {nanos : Nat}
    (pairs : ∀ n ∈ [century, year, month, day], n < 100)
    (clock : hour ≤ 23 ∧ minute ≤ 59 ∧ second ≤ 60)
    (text : raw.toList = padded 2 century ++ padded 2 year ++ '-' :: padded 2 month ++
      '-' :: padded 2 day ++ 'T' :: padded 2 hour ++ ':' :: padded 2 minute ++
      ':' :: padded 2 second ++ tail)
    (date : Calendar.dayOf? (100 * century + year) month day = some number)
    (fraction : readFraction tail = .ok (nanos, rest))
    (zone : TimeScan.offset .required true false rest = .ok (offset, []))
    (range : -DateFields.offsetLimit < offset ∧ offset < DateFields.offsetLimit) :
    readInternetTime raw = .ok (Moment.ofLocal number
      (hour * 3600 + minute * 60 + (DateFields.toldSecond second).1)
      ((DateFields.toldSecond second).2 + nanos) offset) := by
  have centuryFits := pairs century (by simp)
  have yearFits := pairs year (by simp)
  have monthFits := pairs month (by simp)
  have dayFits := pairs day (by simp)
  have hourFits : hour < 100 := by omega
  have minuteFits : minute < 100 := by omega
  have secondFits : second < 100 := by omega
  have inDay : ¬ (23 < hour ∨ 59 < minute ∨ 60 < second) := by omega
  have long := TimeScan.length_le_utf8Length raw.toList
  rw [Moment.padded_two centuryFits, Moment.padded_two yearFits, Moment.padded_two monthFits,
    Moment.padded_two dayFits, Moment.padded_two hourFits, Moment.padded_two minuteFits,
    Moment.padded_two secondFits] at text
  have enough : ¬ TimeScan.utf8Length raw.toList < 19 := by
    rw [text] at long ⊢
    simp only [List.length_append, List.length_cons, List.length_nil] at long
    omega
  rw [reads_places]
  simp only [if_neg enough]
  rw [text]
  simp only [List.cons_append, List.nil_append, pairAt_cons, markAt_cons, markAt_mark,
    pairAt_padded centuryFits, pairAt_padded yearFits, pairAt_padded monthFits,
    pairAt_padded dayFits, pairAt_padded hourFits, pairAt_padded minuteFits,
    pairAt_padded secondFits, date, DateFields.orOutOfRange, Outcome.ok_bind, if_neg inDay]
  exact zoned_eq_ok.2 ⟨nanos, rest, offset, fraction, zone, range, rfl⟩

end InternetTime

/-! ## Whole texts -/

/-- A moment that a date and time in the fixed places can tell: its offset is a number of whole
minutes short of a day, and its local year has four digits.  A leap second is the one after the last
second of a minute. -/
structure Moment.Tellable (moment : Moment) : Prop where
  wholeMinutes : moment.offset % 60 = 0
  withinDay : -86340 ≤ moment.offset ∧ moment.offset ≤ 86340
  year : 0 ≤ (Calendar.dateOfDay moment.localDay).year ∧
    (Calendar.dateOfDay moment.localDay).year ≤ 9999
  nanos : moment.nanos < 2 * Moment.nanosPerSecond
  leap : Moment.nanosPerSecond ≤ moment.nanos → moment.localSecondOfDay % 60 = 59

namespace Moment

theorem localSecondOfDay_lt (moment : Moment) : moment.localSecondOfDay < 86400 := by
  rw [localSecondOfDay, secondsPerDay]
  omega

theorem ofLocal_local (moment : Moment) :
    ofLocal moment.localDay moment.localSecondOfDay moment.nanos moment.offset = moment := by
  have whole : moment.localDay * secondsPerDay + moment.localSecondOfDay =
      moment.seconds + moment.offset := by
    rw [localDay, localSecondOfDay, localSeconds, secondsPerDay]
    omega
  rw [ofLocal, whole, Int.add_sub_cancel]

/-- The second of the minute as the text shows it, sixty in a leap second. -/
def shownSecond (moment : Moment) : Nat :=
  moment.localSecondOfDay % 60 + (if nanosPerSecond ≤ moment.nanos then 1 else 0)

def shownNanos (moment : Moment) : Nat :=
  if nanosPerSecond ≤ moment.nanos then moment.nanos - nanosPerSecond else moment.nanos

theorem shownNanos_lt {moment : Moment} (short : moment.nanos < 2 * nanosPerSecond) :
    moment.shownNanos < nanosPerSecond := by
  rw [shownNanos]
  split <;> omega

theorem shownSecond_le (moment : Moment) : moment.shownSecond ≤ 60 := by
  rw [shownSecond]
  split <;> omega

/-- The second is told as the moment has it, since only the last one of a minute can be a leap
second. -/
theorem toldSecond_shownSecond {moment : Moment}
    (leap : nanosPerSecond ≤ moment.nanos → moment.localSecondOfDay % 60 = 59) :
    (DateFields.toldSecond moment.shownSecond).1 = moment.localSecondOfDay % 60 ∧
      (DateFields.toldSecond moment.shownSecond).2 + moment.shownNanos = moment.nanos := by
  rw [shownSecond, shownNanos, DateFields.toldSecond]
  by_cases isLeap : nanosPerSecond ≤ moment.nanos
  · have last := leap isLeap
    simp only [if_pos isLeap, last, if_true, true_and]
    omega
  · have whole : moment.localSecondOfDay % 60 ≠ 60 := by omega
    simp only [if_neg isLeap, Nat.add_zero, if_neg whole, Nat.zero_add, and_self]

theorem text_eq (moment : Moment) :
    moment.text.toList = dateText (Calendar.dateOfDay moment.localDay) ++
      'T' :: padded 2 (moment.localSecondOfDay / 3600) ++
      ':' :: padded 2 (moment.localSecondOfDay / 60 % 60) ++ ':' :: padded 2 moment.shownSecond ++
      (fractionText moment.shownNanos ++ offsetText moment.offset) := by
  rw [text, String.toList_ofList, ← List.append_assoc]
  rfl

/-- The date of a day is shown in pairs of digits, from which the day is found again. -/
theorem dateText_places {day : Int} (fourDigits : 0 ≤ (Calendar.dateOfDay day).year ∧
      (Calendar.dateOfDay day).year ≤ 9999) :
    ∃ century year month date : Nat, (∀ n ∈ [century, year, month, date], n < 100) ∧
      dateText (Calendar.dateOfDay day) = padded 2 century ++ padded 2 year ++
        '-' :: padded 2 month ++ '-' :: padded 2 date ∧
      Calendar.dayOf? (100 * century + year) month date = some day := by
  have valid := Calendar.dateOfDay_valid day
  have inRange : Calendar.minYear ≤ (Calendar.dateOfDay day).year ∧
      (Calendar.dateOfDay day).year ≤ Calendar.maxYear := by
    rw [Calendar.minYear, Calendar.maxYear]
    omega
  have found := Calendar.dayOf?_dateOfDay inRange
  generalize Calendar.dateOfDay day = told at *
  have monthLength := Calendar.daysInMonth_le told.year told.month
  have month := valid.month
  have date := valid.day
  have year : 100 * ((told.year.toNat / 100 : Nat) : Int) + (told.year.toNat % 100 : Nat) =
      told.year := by omega
  refine ⟨told.year.toNat / 100, told.year.toNat % 100, told.month, told.day, ?_, ?_, ?_⟩
  · simp only [List.forall_mem_cons, List.not_mem_nil, false_imp_iff, implies_true, and_true]
    omega
  · rw [dateText, yearText, if_pos fourDigits, padded_four]
  · rw [year]
    exact found

end Moment

theorem readInternetTime_text {moment : Moment} (tellable : moment.Tellable) :
    readInternetTime moment.text = .ok moment := by
  obtain ⟨century, year, month, date, pairs, shown, found⟩ :=
    Moment.dateText_places tellable.year
  have text := moment.text_eq
  rw [shown] at text
  have inDay := moment.localSecondOfDay_lt
  have clock : moment.localSecondOfDay / 3600 ≤ 23 ∧ moment.localSecondOfDay / 60 % 60 ≤ 59 ∧
      moment.shownSecond ≤ 60 := ⟨by omega, by omega, moment.shownSecond_le⟩
  have short := tellable.withinDay
  have range : -DateFields.offsetLimit < moment.offset ∧
      moment.offset < DateFields.offsetLimit := by
    rw [DateFields.offsetLimit]
    omega
  have reads := InternetTime.reads_layout pairs clock text found
    (readFraction_fractionText (Moment.shownNanos_lt tellable.nanos) moment.offset)
    (TimeScan.offset_offsetText tellable.wholeMinutes short) range
  obtain ⟨second, nanos⟩ := Moment.toldSecond_shownSecond tellable.leap
  have whole : moment.localSecondOfDay / 3600 * 3600 + moment.localSecondOfDay / 60 % 60 * 60 +
      moment.localSecondOfDay % 60 = moment.localSecondOfDay := by omega
  rw [reads, second, nanos, whole, moment.ofLocal_local]

theorem readMoment_noFormat (raw : String) : readMoment "" raw = readInternetTime raw := if_pos rfl

/-! ## Blanks around a text -/

theorem dropWhile_blanks {before text : List Char} (blank : before.all isBlank = true)
    (solid : ∀ c, text.head? = some c → isBlank c = false) :
    (before ++ text).dropWhile isBlank = text := by
  rw [List.dropWhile_append_of_pos (List.all_eq_true.1 blank)]
  cases text with
  | nil => rfl
  | cons c text => exact List.dropWhile_cons_of_neg (by simp [solid c rfl])

theorem trimChars_blanks {before text after : List Char} (blankBefore : before.all isBlank = true)
    (blankAfter : after.all isBlank = true) (nonempty : text ≠ [])
    (solid : ∀ c ∈ text, isBlank c = false) : trimChars (before ++ text ++ after) = text := by
  have first : ∀ c, (text ++ after).head? = some c → isBlank c = false := by
    intro c head
    cases text with
    | nil => exact absurd rfl nonempty
    | cons d text => exact solid c (List.mem_of_head? head)
  have last : ∀ c, text.reverse.head? = some c → isBlank c = false := fun c head =>
    solid c (List.mem_reverse.1 (List.mem_of_head? head))
  have blankBack : after.reverse.all isBlank = true := by rwa [List.all_reverse]
  rw [trimChars, List.append_assoc, dropWhile_blanks blankBefore first, List.reverse_append,
    dropWhile_blanks blankBack last, List.reverse_reverse]

theorem isBlank_of_isDigit {c : Char} (digit : c.isDigit = true) : isBlank c = false := by
  have range : 48 ≤ c.toNat ∧ c.toNat ≤ 57 := Char.isDigit_iff_toNat.1 digit
  rw [isBlank, isBlankCode, decide_eq_false_iff_not]
  omega

namespace Moment

theorem padded_solid (width n : Nat) : ∀ c ∈ padded width n, isBlank c = false :=
  fun _ member => isBlank_of_isDigit (isDigit_of_mem_padded member)

theorem yearText_solid (year : Int) : ∀ c ∈ yearText year, isBlank c = false := by
  rw [yearText]
  split
  · exact padded_solid _ _
  · refine List.forall_mem_cons.2 ⟨?_, padded_solid _ _⟩
    split <;> decide

theorem fractionText_solid (nanos : Nat) : ∀ c ∈ fractionText nanos, isBlank c = false := by
  have pointed (width n : Nat) : ∀ c ∈ '.' :: padded width n, isBlank c = false :=
    List.forall_mem_cons.2 ⟨by decide, padded_solid width n⟩
  rw [fractionText]
  split
  · exact List.forall_mem_nil _
  · split
    · exact pointed _ _
    · split
      · exact pointed _ _
      · exact pointed _ _

theorem offsetText_solid (offset : Int) : ∀ c ∈ offsetText offset, isBlank c = false := by
  rw [offsetText]
  split
  · exact List.forall_mem_cons.2 ⟨by decide, List.forall_mem_nil _⟩
  · simp only [List.cons_append, List.forall_mem_cons, List.forall_mem_append]
    refine ⟨?_, padded_solid _ _, by decide, padded_solid _ _⟩
    split <;> decide

theorem text_solid (moment : Moment) : ∀ c ∈ moment.text.toList, isBlank c = false := by
  rw [text_eq, dateText]
  simp only [List.forall_mem_append, List.forall_mem_cons]
  have dash : isBlank '-' = false := by decide
  have colon : isBlank ':' = false := by decide
  exact ⟨⟨⟨⟨⟨⟨yearText_solid _, dash, padded_solid _ _⟩, dash, padded_solid _ _⟩, by decide,
    padded_solid _ _⟩, colon, padded_solid _ _⟩, colon, padded_solid _ _⟩,
    fractionText_solid _, offsetText_solid _⟩

theorem text_ne_nil (moment : Moment) : moment.text.toList ≠ [] := by
  rw [text_eq]
  simp

end Moment

/-- A column of dates without a format reads a moment from its text, whatever blanks are put around
it. -/
theorem moment_text_reads_back (conversion : Conversion) (isDate : conversion.datatype = .date)
    (noFormat : conversion.format = "") {moment : Moment} (tellable : moment.Tellable)
    {before after : String} (blankBefore : isBlankText before = true)
    (blankAfter : isBlankText after = true) :
    conversion.convert (before ++ (Value.moment moment).display ++ after) =
      .ok (.moment moment) := by
  have trims : trimText (before ++ (Value.moment moment).display ++ after) = moment.text := by
    apply String.toList_inj.1
    rw [trimText, String.toList_ofList, String.toList_append, String.toList_append]
    exact trimChars_blanks blankBefore blankAfter moment.text_ne_nil moment.text_solid
  rw [Conversion.convert, isDate]
  dsimp only
  rw [trims, noFormat, readMoment_noFormat, readInternetTime_text tellable]

/-- In universal time this leap second still belongs to the year before. -/
theorem moment_text_reads_back_leap_second :
    let moment : Moment := .ofLocal (-719528) 1799 1123456789 86340
    moment.Tellable ∧ moment.seconds / Moment.secondsPerDay = -719529 ∧
      isBlankText "\t" = true ∧ isBlankText " \n" = true ∧
      (Value.moment moment).display = "0000-01-01T00:29:60.123456789+23:59" ∧
      Conversion.convert ⟨.date, "", "at"⟩
          ("\t" ++ "0000-01-01T00:29:60.123456789+23:59" ++ " \n") =
        .ok (.moment moment) := by
  intro moment
  have tellable : moment.Tellable :=
    ⟨by decide, by decide, by decide, by decide, fun _ => by decide⟩
  have before : isBlankText "\t" = true := by rfl
  have after : isBlankText " \n" = true := by rfl
  have text : (Value.moment moment).display = "0000-01-01T00:29:60.123456789+23:59" := by
    decide +kernel
  have reads := moment_text_reads_back ⟨.date, "", "at"⟩ rfl rfl tellable before after
  rw [text] at reads
  exact ⟨tellable, by decide, before, after, text, reads⟩

end Sluice
