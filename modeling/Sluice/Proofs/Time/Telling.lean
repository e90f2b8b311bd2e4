import Sluice.Proofs.Time.RoundTrip

/-!
# What date texts tell

A date and time in fixed places tells a moment that its own text tells again: an offset of whole
minutes, a year of four digits, and a leap second at the end of a minute only.
-/

set_option autoImplicit false

namespace Sluice

namespace TimeScan

theorem digit_le_nine {c : Char} (digit : isDigit c = true) : c.toNat - '0'.toNat ≤ 9 := by
  have range : '0' ≤ c ∧ c ≤ '9' := of_decide_eq_true digit
  have most : c.toNat ≤ '9'.toNat := range.2
  have nine : '9'.toNat = 57 := rfl
  have zero : '0'.toNat = 48 := rfl
  omega

/-- The digits that were read are counted, and the number has no more. -/
theorem digits_bound {min count max value read : Nat} {text rest : List Char}
    (scans : digits min count max value text = .ok (read, rest)) :
    ∃ taken ≤ max, text.length = rest.length + taken ∧ read < (value + 1) * tenTo taken := by
  induction max generalizing count value text with
  | zero =>
      rw [digits] at scans
      cases scans
      exact ⟨0, Nat.le_refl 0, rfl, by rw [show tenTo 0 = 1 from rfl]; omega⟩
  | succ max ih =>
      cases text with
      | nil =>
          rw [digits] at scans
          split at scans
          · cases scans
          · cases scans
            exact ⟨0, Nat.zero_le _, rfl, by rw [show tenTo 0 = 1 from rfl]; omega⟩
      | cons c text =>
          rw [digits] at scans
          split at scans
          · next digit =>
              dsimp only at scans
              split at scans
              · cases scans
              · obtain ⟨taken, few, length, bound⟩ := ih scans
                have nine := digit_le_nine digit
                refine ⟨taken + 1, by omega, by rw [List.length_cons, length]; rfl, ?_⟩
                calc read < (10 * value + (c.toNat - '0'.toNat) + 1) * tenTo taken := bound
                  _ ≤ (value + 1) * 10 * tenTo taken :=
                    Nat.mul_le_mul_right _ (by omega)
                  _ = (value + 1) * tenTo (taken + 1) := by
                    rw [tenTo_succ, Nat.mul_comm (tenTo taken), Nat.mul_assoc]
          · split at scans
            · cases scans
            · cases scans
              exact ⟨0, Nat.zero_le _, rfl, by rw [show tenTo 0 = 1 from rfl]; omega⟩

theorem nanoseconds_lt {text rest : List Char} {nanos : Nat}
    (scans : nanoseconds text = .ok (nanos, rest)) : nanos < Moment.nanosPerSecond := by
  obtain ⟨⟨value, left⟩, reads, scans⟩ := Outcome.bind_eq_ok.1 scans
  cases scans
  rw [number] at reads
  split at reads
  · cases reads
  · obtain ⟨taken, few, length, bound⟩ := digits_bound reads
    have scale : text.length - left.length = taken := by omega
    rw [scale]
    calc value * tenTo (9 - taken) < (0 + 1) * tenTo taken * tenTo (9 - taken) :=
          Nat.mul_lt_mul_of_pos_right bound (Nat.pow_pos (by decide))
      _ = tenTo (taken + (9 - taken)) := by
        rw [Nat.zero_add, Nat.one_mul]
        exact (Nat.pow_add 10 _ _).symm
      _ = Moment.nanosPerSecond := by
        rw [Nat.add_sub_cancel' few]
        rfl

theorem offset_whole {text rest : List Char} {seconds : Int}
    (scans : offset .required true false text = .ok (seconds, rest)) : seconds % 60 = 0 := by
  unfold offset at scans
  split at scans
  · cases scans
    rfl
  · cases scans
    rfl
  · obtain ⟨⟨negative, afterSign⟩, _, scans⟩ := Outcome.bind_eq_ok.1 scans
    obtain ⟨⟨hours, afterHours⟩, _, scans⟩ := Outcome.bind_eq_ok.1 scans
    obtain ⟨left, _, scans⟩ := Outcome.bind_eq_ok.1 scans
    dsimp only at scans
    split at scans
    · split at scans
      · next allowed => cases allowed
      · cases scans
    · split at scans
      · split at scans
        · cases scans
        · cases scans
          split <;> omega
      · cases scans

end TimeScan

theorem readFraction_lt {text rest : List Char} {nanos : Nat}
    (reads : readFraction text = .ok (nanos, rest)) : nanos < Moment.nanosPerSecond := by
  unfold readFraction at reads
  split at reads
  · exact TimeScan.nanoseconds_lt reads
  · cases reads
    decide

namespace InternetTime

theorem digitAt_le {text : List Char} {place digit : Nat}
    (reads : digitAt text place = .ok digit) : digit ≤ 9 := by
  unfold digitAt at reads
  split at reads
  · next found =>
      cases reads
      obtain ⟨c, _, value⟩ := Option.bind_eq_some_iff.1 found
      rw [digitValue?] at value
      split at value
      · next isDigit =>
          cases value
          exact TimeScan.digit_le_nine (decide_eq_true isDigit)
      · cases value
  · cases reads

theorem pairAt_lt {text : List Char} {place n : Nat} (reads : pairAt text place = .ok n) :
    n < 100 := by
  obtain ⟨tens, readsTens, reads⟩ := Outcome.bind_eq_ok.1 reads
  obtain ⟨ones, readsOnes, reads⟩ := Outcome.bind_eq_ok.1 reads
  have tensLe := digitAt_le readsTens
  have onesLe := digitAt_le readsOnes
  obtain rfl := Except.ok.inj reads
  omega

end InternetTime

theorem Calendar.valid_of_dayOf? {year : Int} {month day : Nat} {number : Int}
    (found : dayOf? year month day = some number) :
    Valid ⟨year, month, day⟩ ∧ dayNumber ⟨year, month, day⟩ = number := by
  rw [dayOf?] at found
  split at found
  · next inCalendar =>
      obtain ⟨_, _, firstMonth, lastMonth, firstDay, lastDay⟩ := inCalendar
      exact ⟨⟨⟨firstMonth, lastMonth⟩, firstDay, lastDay⟩, Option.some.inj found⟩
  · cases found

theorem DateFields.toldSecond_cases {second : Nat} (inMinute : second ≤ 60) :
    (toldSecond second).1 ≤ 59 ∧ (toldSecond second).2 = 0 ∨
      toldSecond second = (59, Moment.nanosPerSecond) := by
  rw [toldSecond]
  split
  · exact .inr rfl
  · exact .inl ⟨by dsimp only; omega, rfl⟩

namespace Moment

theorem localDay_ofLocal {second : Nat} (inDay : second < 86400) (day : Int) (nanos : Nat)
    (offset : Int) : (ofLocal day second nanos offset).localDay = day := by
  rw [localDay, localSeconds_ofLocal, secondsPerDay]
  omega

theorem tellable_ofLocal {day offset : Int} {minutes second nanos : Nat} (inDay : minutes < 1440)
    (inMinute : second ≤ 60) (part : nanos < nanosPerSecond)
    (year : 0 ≤ (Calendar.dateOfDay day).year ∧ (Calendar.dateOfDay day).year ≤ 9999)
    (whole : offset % 60 = 0) (short : -86400 < offset ∧ offset < 86400) :
    (ofLocal day (minutes * 60 + (DateFields.toldSecond second).1)
      ((DateFields.toldSecond second).2 + nanos) offset).Tellable := by
  rw [nanosPerSecond] at part
  rcases DateFields.toldSecond_cases inMinute with ⟨common, none⟩ | leap
  · have time : minutes * 60 + (DateFields.toldSecond second).1 < 86400 := by omega
    rw [none, Nat.zero_add]
    refine ⟨whole, ?_, by rwa [localDay_ofLocal time], ?_, fun leap => ?_⟩
    · simp only [ofLocal]
      omega
    · simp only [ofLocal, nanosPerSecond]
      omega
    · simp only [ofLocal, nanosPerSecond] at leap
      omega
  · have time : minutes * 60 + 59 < 86400 := by omega
    rw [leap]
    refine ⟨whole, ?_, by rwa [localDay_ofLocal time], ?_, fun _ => ?_⟩
    · simp only [ofLocal]
      omega
    · simp only [ofLocal, nanosPerSecond]
      omega
    · rw [localSecondOfDay_ofLocal time]
      omega

end Moment

/-- What is read in the fixed places can be told. -/
theorem tellable_of_read {raw : String} {moment : Moment}
    (reads : readInternetTime raw = .ok moment) : moment.Tellable := by
  simp only [InternetTime.reads_places, Outcome.checked_eq_ok, Outcome.bind_eq_ok] at reads
  obtain ⟨_, century, readsCentury, year, readsYear, _, _, month, _, _, _, date, _, day, finds,
    _, _, hour, _, _, _, minute, _, _, _, second, _, clock, zoned⟩ := reads
  obtain ⟨nanos, rest, offset, fraction, zone, range, rfl⟩ := InternetTime.zoned_eq_ok.1 zoned
  have centuryFits := InternetTime.pairAt_lt readsCentury
  have yearFits := InternetTime.pairAt_lt readsYear
  have fourDigits : 0 ≤ (Calendar.dateOfDay day).year ∧ (Calendar.dateOfDay day).year ≤ 9999 := by
    cases found : Calendar.dayOf? (100 * century + year) month date with
    | none =>
        rw [found] at finds
        cases finds
    | some number =>
        rw [found] at finds
        obtain rfl : number = day := Except.ok.inj finds
        obtain ⟨valid, rfl⟩ := Calendar.valid_of_dayOf? found
        rw [Calendar.year_dateOfDay_dayNumber valid]
        dsimp only
        omega
  have inDay : hour * 60 + minute < 1440 := by omega
  have inMinute : second ≤ 60 := by omega
  have tellable := Moment.tellable_ofLocal inDay inMinute (readFraction_lt fraction) fourDigits
    (TimeScan.offset_whole zone) range
  rwa [Nat.add_mul, Nat.mul_assoc] at tellable

/-- The moments that a date and time in fixed places tells are those that their own texts tell. -/
theorem exists_readInternetTime_iff {moment : Moment} :
    (∃ raw, readInternetTime raw = .ok moment) ↔ moment.Tellable :=
  ⟨fun ⟨_, reads⟩ => tellable_of_read reads, fun tellable => ⟨_, readInternetTime_text tellable⟩⟩

end Sluice
