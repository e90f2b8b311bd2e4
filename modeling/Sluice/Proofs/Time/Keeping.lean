import Sluice.Proofs.Time.Scan

/-!
# Which parts of a text a moment keeps

A reading with an offset keeps all that was read.  One without keeps the time of day, and one of the
date alone keeps neither, so what a format has read is lost when the parts make no whole time, or
when an offset comes with no time to which it could belong.
-/

set_option autoImplicit false

namespace Sluice

namespace ClockPart

def IsTime : ClockPart → Prop
  | offset _ => False
  | timestamp _ => False
  | _ => True

theorem IsTime.told {part : ClockPart} (isTime : part.IsTime) : part.kind ≠ .timestamp := by
  cases part with
  | timestamp seconds => exact isTime.elim
  | _ => exact nofun

/-- The part of a second of the day, its nanoseconds and an offset.  A timestamp is none. -/
def OfClock (secondOfDay fraction : Nat) (zone : Int) : ClockPart → Prop
  | half value => secondOfDay / 3600 / 12 = value
  | hourOfHalf value => secondOfDay / 3600 % 12 = value
  | minute value => secondOfDay / 60 % 60 = value
  | second value =>
    secondOfDay % 60 + (if Moment.nanosPerSecond ≤ fraction then 1 else 0) = value
  | nanos value => fraction % Moment.nanosPerSecond = value
  | offset seconds => zone = seconds
  | timestamp _ => False

instance (secondOfDay fraction : Nat) (zone : Int) :
    (part : ClockPart) → Decidable (part.OfClock secondOfDay fraction zone)
  | half _ => inferInstanceAs (Decidable (_ = _))
  | hourOfHalf _ => inferInstanceAs (Decidable (_ = _))
  | minute _ => inferInstanceAs (Decidable (_ = _))
  | second _ => inferInstanceAs (Decidable (_ = _))
  | nanos _ => inferInstanceAs (Decidable (_ = _))
  | offset _ => inferInstanceAs (Decidable (_ = _))
  | timestamp _ => inferInstanceAs (Decidable False)

def AtMidnight (part : ClockPart) : Prop := part.OfClock 0 0 0

end ClockPart

namespace Moment

/-- The local time of the moment, or its offset, has this part. -/
def Shows (moment : Moment) (part : ClockPart) : Prop :=
  part.OfClock moment.localSecondOfDay moment.nanos moment.offset

instance (moment : Moment) (part : ClockPart) : Decidable (moment.Shows part) :=
  inferInstanceAs (Decidable (part.OfClock _ _ _))

def InCalendar (seconds : Int) : Prop :=
  Calendar.minYear ≤ (Calendar.dateOfDay (seconds / secondsPerDay)).year ∧
    (Calendar.dateOfDay (seconds / secondsPerDay)).year ≤ Calendar.maxYear

instance (seconds : Int) : Decidable (InCalendar seconds) := inferInstanceAs (Decidable (_ ∧ _))

/-- The local time of the moment can be told in the offset. -/
def CanTell (moment : Moment) (offset : Int) : Prop :=
  (-DateFields.offsetLimit < offset ∧ offset < DateFields.offsetLimit) ∧
    InCalendar (moment.localSeconds - offset)

instance (moment : Moment) (offset : Int) : Decidable (moment.CanTell offset) :=
  inferInstanceAs (Decidable (_ ∧ _))

@[simp] theorem localSeconds_ofLocal (day : Int) (second nanos : Nat) (offset : Int) :
    (ofLocal day second nanos offset).localSeconds = day * secondsPerDay + second := by
  simp [localSeconds, ofLocal]

theorem localSecondOfDay_ofLocal {second : Nat} (inDay : second < 86400) (day : Int) (nanos : Nat)
    (offset : Int) : (ofLocal day second nanos offset).localSecondOfDay = second := by
  rw [localSecondOfDay, localSeconds_ofLocal, secondsPerDay]
  omega

theorem ofLocal_shows {second : Nat} (inDay : second < 86400) (day : Int) (nanos : Nat)
    (offset : Int) (part : ClockPart) :
    (ofLocal day second nanos offset).Shows part ↔ part.OfClock second nanos offset := by
  rw [Shows, localSecondOfDay_ofLocal inDay]
  rfl

end Moment

structure WholeTime (read : ClockPart → Prop) : Prop where
  half : ∃ value, read (.half value)
  hourOfHalf : ∃ value, read (.hourOfHalf value)
  minute : ∃ value, read (.minute value)
  second : (∃ value, read (.nanos value)) → ∃ value, read (.second value)

namespace DateFields

variable {fields : DateFields}

/-! ## Times of day -/

theorem orNotEnough_eq_ok {α : Type} {part : Option α} {value : α} :
    orNotEnough part = .ok value ↔ part = some value := by
  cases part <;> simp [orNotEnough]

theorem InRange.getD_second (inRange : fields.InRange) : fields.second.getD 0 ≤ 60 := by
  cases read : fields.second with
  | none => exact Nat.zero_le 60
  | some value => exact inRange (.second value) read

theorem InRange.getD_nanosecond (inRange : fields.InRange) :
    fields.nanosecond.getD 0 ≤ 999999999 := by
  cases read : fields.nanosecond with
  | none => exact Nat.zero_le _
  | some value => exact inRange (.nanos value) read

/-- How a second of the minute is told: the sixtieth is one more within the last. -/
def toldSecond (second : Nat) : Nat × Nat :=
  if second = 60 then (59, Moment.nanosPerSecond) else (second, 0)

theorem toTime_eq_ok {time : Nat × Nat} :
    fields.toTime = .ok time ↔ ∃ half hour minute, fields.hourDiv12 = some half ∧
      fields.hourMod12 = some hour ∧ fields.minute = some minute ∧
      (fields.nanosecond.isSome && fields.second.isNone) = false ∧
      time = ((half * 12 + hour) * 3600 + minute * 60 + (toldSecond (fields.second.getD 0)).1,
        (toldSecond (fields.second.getD 0)).2 + fields.nanosecond.getD 0) := by
  simp only [toTime, Outcome.bind_eq_ok, orNotEnough_eq_ok, toldSecond]
  cases lacking : fields.nanosecond.isSome && fields.second.isNone with
  | true =>
      constructor
      · rintro ⟨_, _, _, _, _, _, found⟩
        cases found
      · rintro ⟨_, _, _, _, _, _, found, _⟩
        cases found
  | false =>
      constructor
      · rintro ⟨half, halfRead, hour, hourRead, minute, minuteRead, found⟩
        exact ⟨half, hour, minute, halfRead, hourRead, minuteRead, rfl, (Except.ok.inj found).symm⟩
      · rintro ⟨half, hour, minute, halfRead, hourRead, minuteRead, _, rfl⟩
        exact ⟨half, halfRead, hour, hourRead, minute, minuteRead, rfl⟩

/-- What was read of a time of day is found again in it. -/
theorem toTime_ofClock (inRange : fields.InRange) {second nanos : Nat}
    (found : fields.toTime = .ok (second, nanos)) :
    second < 86400 ∧ ∀ part, fields.Holds part → part.IsTime →
      ∀ zone, part.OfClock second nanos zone := by
  obtain ⟨half, hour, minute, halfRead, hourRead, minuteRead, _, same⟩ := toTime_eq_ok.1 found
  have halfMax : half ≤ 1 := inRange (.half half) halfRead
  have hourMax : hour ≤ 11 := inRange (.hourOfHalf hour) hourRead
  have minuteMax : minute ≤ 59 := inRange (.minute minute) minuteRead
  have secondMax := inRange.getD_second
  have nanosMax := inRange.getD_nanosecond
  obtain ⟨rfl, rfl⟩ := Prod.mk.inj same
  have toldMax : (toldSecond (fields.second.getD 0)).1 ≤ 59 := by
    rw [toldSecond]
    split <;> omega
  refine ⟨by omega, fun part held isTime zone => ?_⟩
  cases part with
  | half value =>
      cases halfRead.symm.trans held
      simp only [ClockPart.OfClock]
      omega
  | hourOfHalf value =>
      cases hourRead.symm.trans held
      simp only [ClockPart.OfClock]
      omega
  | minute value =>
      cases minuteRead.symm.trans held
      simp only [ClockPart.OfClock]
      omega
  | second value =>
      have read : fields.second = some value := held
      rw [read, Option.getD_some] at secondMax
      simp only [ClockPart.OfClock, read, Option.getD_some, toldSecond, Moment.nanosPerSecond]
      split <;> split <;> omega
  | nanos value =>
      have read : fields.nanosecond = some value := held
      rw [read, Option.getD_some] at nanosMax
      simp only [ClockPart.OfClock, read, Option.getD_some, toldSecond, Moment.nanosPerSecond]
      split <;> omega
  | offset seconds => exact isTime.elim
  | timestamp seconds => exact isTime.elim

theorem exists_toTime_iff : (∃ time, fields.toTime = .ok time) ↔ WholeTime fields.Holds := by
  constructor
  · rintro ⟨time, found⟩
    obtain ⟨half, hour, minute, halfRead, hourRead, minuteRead, enough, _⟩ := toTime_eq_ok.1 found
    refine ⟨⟨half, halfRead⟩, ⟨hour, hourRead⟩, ⟨minute, minuteRead⟩, ?_⟩
    rintro ⟨nanos, nanosRead : fields.nanosecond = some nanos⟩
    rw [nanosRead] at enough
    exact Option.isSome_iff_exists.1 (by simpa [← Option.not_isSome] using enough)
  · rintro ⟨⟨half, halfRead⟩, ⟨hour, hourRead⟩, ⟨minute, minuteRead⟩, second⟩
    refine ⟨_, toTime_eq_ok.2 ⟨half, hour, minute, halfRead, hourRead, minuteRead, ?_, rfl⟩⟩
    cases nanosRead : fields.nanosecond with
    | none => rfl
    | some nanos =>
        obtain ⟨value, read⟩ := second ⟨nanos, nanosRead⟩
        rw [show fields.second = some value from read]
        rfl

/-- The parts that are kept in a local time: those of the time of day. -/
def KeptIn (fields : DateFields) (time : LocalTime) : Prop :=
  time.second < 86400 ∧ ∀ part, fields.Holds part → part.IsTime →
    ∀ zone, part.OfClock time.second time.nanos zone

theorem KeptIn.of_gains {given : ClockPart → Prop} {before after : DateFields} {time : LocalTime}
    (kept : after.KeptIn time) (gains : Gains given before after) : before.KeptIn time :=
  ⟨kept.1, fun part held => kept.2 part (gains.holds held)⟩

/-- Parts that are filled in must agree with those that were read, which are kept so. -/
theorem filledIn_kept (inRange : fields.InRange) {year ordinal hour minute : Int}
    {time : LocalTime}
    (found : (do
      let f ← fields.setYear year
      let f ← f.setOrdinal ordinal
      let f ← f.setHour hour
      let f ← f.setMinute minute
      let day ← f.toDay
      let (second, nanos) ← f.toTime
      return ⟨day, second, nanos⟩ : Except TimeFault LocalTime) = .ok time) :
    fields.KeptIn time := by
  -- Setting a part keeps those that were read, so the time of the filled fields shows them still.
  obtain ⟨dated, setsYear, found⟩ := Outcome.bind_eq_ok.1 found
  obtain ⟨ordered, setsOrdinal, found⟩ := Outcome.bind_eq_ok.1 found
  obtain ⟨timed, setsHour, found⟩ := Outcome.bind_eq_ok.1 found
  obtain ⟨filled, setsMinute, found⟩ := Outcome.bind_eq_ok.1 found
  obtain ⟨day, _, found⟩ := Outcome.bind_eq_ok.1 found
  obtain ⟨⟨second, nanos⟩, findsTime, same⟩ := Outcome.bind_eq_ok.1 found
  cases same
  have gains := (((NumberPart.store_gains .year setsYear).trans
    (NumberPart.store_gains .ordinal setsOrdinal)).trans
    (NumberPart.store_gains .hour setsHour)).trans (NumberPart.store_gains .minute setsMinute)
  have kept : filled.KeptIn ⟨day, second, nanos⟩ :=
    toTime_ofClock (gains.after_inRange inRange) findsTime
  exact kept.of_gains gains

theorem fromTimestamp_kept (inRange : fields.InRange) {timestamp offset : Int} {time : LocalTime}
    (found : fields.fromTimestamp timestamp offset = .ok time) : fields.KeptIn time := by
  simp only [fromTimestamp, Outcome.checked_eq_ok] at found
  obtain ⟨_, _, _, found⟩ := found
  split at found
  · exact filledIn_kept inRange found
  · obtain ⟨timed, setsSecond, found⟩ := Outcome.bind_eq_ok.1 found
    have gains := NumberPart.store_gains .second setsSecond
    exact (filledIn_kept (gains.after_inRange inRange) found).of_gains gains

theorem toLocal_kept (inRange : fields.InRange) {offset : Int} {time : LocalTime}
    (found : fields.toLocal offset = .ok time) : fields.KeptIn time := by
  unfold toLocal at found
  split at found
  · next day second nanos _ times =>
      have kept : fields.KeptIn ⟨day, second, nanos⟩ := toTime_ofClock inRange times
      dsimp only at found
      split at found
      · cases found
        exact kept
      · split at found
        · cases found
          exact kept
        · cases found
  · dsimp only at found
    split at found
    · split at found
      · cases found
      · split at found
        · cases found
        · exact fromTimestamp_kept inRange found
    · cases found

section Untimed

variable (untimed : fields.timestamp = none)
include untimed

/-- Without a timestamp, a local time is the same in every offset. -/
theorem toLocal_untimed (offset : Int) : fields.toLocal offset = fields.toLocal 0 := by
  unfold toLocal
  rw [untimed]

/-- Without a timestamp, a local time is made of a day and a whole time of day. -/
theorem exists_toLocal_iff (offset : Int) :
    (∃ time, fields.toLocal offset = .ok time) ↔
      (∃ day, fields.toDay = .ok day) ∧ WholeTime fields.Holds := by
  rw [← exists_toTime_iff]
  unfold toLocal
  rw [untimed]
  cases fields.toDay with
  | error fault => simp
  | ok day =>
      cases fields.toTime with
      | error fault => simp
      | ok time => simp

end Untimed

/-! ## Moments -/

/-- The offset in which the parts are told; a timestamp is told in universal time. -/
def offset? (fields : DateFields) : Option Int :=
  match fields.offset, fields.timestamp with
  | some offset, _ => some offset
  | none, some _ => some 0
  | none, none => none

def toldIn (fields : DateFields) (offset : Int) : Except TimeFault Moment := do
  let time ← fields.toLocal offset
  if offset ≤ -offsetLimit ∨ offsetLimit ≤ offset then throw .outOfRange
  let moment := Moment.ofLocal time.day time.second time.nanos offset
  let year := (Calendar.dateOfDay (moment.seconds / Moment.secondsPerDay)).year
  if year < Calendar.minYear ∨ Calendar.maxYear < year then throw .impossible
  return moment

theorem toMoment_eq (fields : DateFields) :
    fields.toMoment = orNotEnough fields.offset? >>= fields.toldIn := by
  rw [toMoment, offset?]
  cases fields.offset with
  | some offset => rfl
  | none => cases fields.timestamp <;> rfl

theorem toldIn_eq_ok {offset : Int} {moment : Moment} :
    fields.toldIn offset = .ok moment ↔ ∃ time, fields.toLocal offset = .ok time ∧
      moment = .ofLocal time.day time.second time.nanos offset ∧ moment.CanTell offset := by
  simp only [toldIn, Outcome.bind_eq_ok, Outcome.checked_eq_ok, not_or, Int.not_le, Int.not_lt]
  refine exists_congr fun time => and_congr_right fun _ => ⟨?_, ?_⟩
  · rintro ⟨short, within, same⟩
    cases same
    refine ⟨rfl, short, ?_⟩
    rwa [Moment.localSeconds_ofLocal]
  · rintro ⟨rfl, short, within⟩
    rw [Moment.localSeconds_ofLocal] at within
    exact ⟨short, within, rfl⟩

theorem toMoment_eq_ok {moment : Moment} :
    fields.toMoment = .ok moment ↔
      ∃ offset, fields.offset? = some offset ∧ ∃ time, fields.toLocal offset = .ok time ∧
        moment = .ofLocal time.day time.second time.nanos offset ∧ moment.CanTell offset := by
  simp only [toMoment_eq, Outcome.bind_eq_ok, orNotEnough_eq_ok, toldIn_eq_ok]

theorem toMoment_shows (inRange : fields.InRange) {moment : Moment}
    (found : fields.toMoment = .ok moment) {part : ClockPart} (held : fields.Holds part)
    (told : part.kind ≠ .timestamp) : moment.Shows part := by
  obtain ⟨offset, chosen, time, finds, rfl, _⟩ := toMoment_eq_ok.1 found
  obtain ⟨inDay, kept⟩ := toLocal_kept inRange finds
  rw [Moment.ofLocal_shows inDay]
  cases part with
  | offset seconds =>
      rw [offset?, show fields.offset = some seconds from held] at chosen
      exact (Option.some.inj chosen).symm
  | timestamp seconds => exact absurd rfl told
  | _ => exact kept _ held trivial offset

/-- The moment that the fields come to: one with its offset, or a local time in universal time, or
the beginning of a day. -/
inductive ComesTo (fields : DateFields) : Moment → Prop where
  | moment {moment : Moment} (found : fields.toMoment = .ok moment) : ComesTo fields moment
  | local {time : LocalTime} (homeless : ∀ moment, fields.toMoment ≠ .ok moment)
      (found : fields.toLocal 0 = .ok time) :
      ComesTo fields (.ofLocal time.day time.second time.nanos 0)
  | day {day : Int} (homeless : ∀ moment, fields.toMoment ≠ .ok moment)
      (timeless : ∀ time, fields.toLocal 0 ≠ .ok time) (found : fields.toDay = .ok day) :
      ComesTo fields (.ofLocal day 0 0 0)

/-- The fields come to a moment, or to a local time that the part belongs to. -/
def Settles (fields : DateFields) (part : ClockPart) : Prop :=
  (∃ moment, fields.toMoment = .ok moment) ∨
    part.IsTime ∧ ∃ time, fields.toLocal 0 = .ok time

namespace ComesTo

variable {moment : Moment} {part : ClockPart}

/-- A part that was read is kept if it was needed, and by chance. -/
theorem shows_iff (comes : fields.ComesTo moment) (inRange : fields.InRange)
    (held : fields.Holds part) (told : part.kind ≠ .timestamp) :
    moment.Shows part ↔ fields.Settles part ∨ part.AtMidnight := by
  cases comes with
  | moment found =>
      exact iff_of_true (toMoment_shows inRange found held told) (.inl (.inl ⟨_, found⟩))
  | «local» homeless found =>
      obtain ⟨inDay, kept⟩ := toLocal_kept inRange found
      rw [Moment.ofLocal_shows inDay]
      cases part with
      | offset seconds =>
          refine ⟨.inr, fun settles => settles.resolve_left ?_⟩
          rintro (⟨moment, settled⟩ | ⟨isTime, _⟩)
          · exact homeless moment settled
          · exact isTime
      | timestamp seconds => exact absurd rfl told
      | _ => exact iff_of_true (kept _ held trivial 0) (.inl (.inr ⟨trivial, _, found⟩))
  | day homeless timeless found =>
      rw [Moment.ofLocal_shows (by decide)]
      refine ⟨.inr, fun settles => settles.resolve_left ?_⟩
      rintro (⟨moment, settled⟩ | ⟨_, time, settled⟩)
      · exact homeless moment settled
      · exact timeless time settled

/-- Where no offset was read, the moment is told in universal time. -/
theorem offset_eq_zero (comes : fields.ComesTo moment) (unread : fields.offset = none) :
    moment.offset = 0 := by
  cases comes with
  | moment found =>
      obtain ⟨offset, chosen, time, _, rfl, _⟩ := toMoment_eq_ok.1 found
      rw [offset?, unread] at chosen
      cases timed : fields.timestamp with
      | none => simp [timed] at chosen
      | some timestamp =>
          rw [timed] at chosen
          exact (Option.some.inj chosen).symm
  | «local» => rfl
  | day => rfl

section Untimed

variable (comes : fields.ComesTo moment) (untimed : fields.timestamp = none)
include comes untimed

theorem exists_day : ∃ day, fields.toDay = .ok day := by
  cases comes with
  | moment found =>
      obtain ⟨offset, _, time, finds, _⟩ := toMoment_eq_ok.1 found
      exact ((exists_toLocal_iff untimed offset).1 ⟨time, finds⟩).1
  | «local» homeless found => exact ((exists_toLocal_iff untimed 0).1 ⟨_, found⟩).1
  | day homeless timeless found => exact ⟨_, found⟩

/-- A time of day is kept if it is whole. -/
theorem settles_time_iff (isTime : part.IsTime) :
    fields.Settles part ↔ WholeTime fields.Holds := by
  constructor
  · rintro (⟨moment, settled⟩ | ⟨_, settled⟩)
    · obtain ⟨offset, _, time, finds, _⟩ := toMoment_eq_ok.1 settled
      exact ((exists_toLocal_iff untimed offset).1 ⟨time, finds⟩).2
    · exact ((exists_toLocal_iff untimed 0).1 settled).2
  · intro whole
    exact .inr ⟨isTime, (exists_toLocal_iff untimed 0).2 ⟨comes.exists_day untimed, whole⟩⟩

/-- An offset is kept if the local time is whole and can be told in it. -/
theorem settles_offset_iff {seconds : Int} (held : fields.offset = some seconds) :
    fields.Settles (.offset seconds) ↔ WholeTime fields.Holds ∧ moment.CanTell seconds := by
  have chosen : fields.offset? = some seconds := by rw [offset?, held]
  constructor
  · rintro (⟨settled, found⟩ | ⟨isTime, _⟩)
    · cases comes with
      | moment found =>
          obtain ⟨offset, same, time, finds, _, tells⟩ := toMoment_eq_ok.1 found
          cases chosen.symm.trans same
          exact ⟨((exists_toLocal_iff untimed seconds).1 ⟨time, finds⟩).2, tells⟩
      | «local» homeless => exact absurd found (homeless settled)
      | day homeless => exact absurd found (homeless settled)
    · exact isTime.elim
  · rintro ⟨whole, tells⟩
    cases comes with
    | moment found => exact .inl ⟨_, found⟩
    | «local» homeless found =>
        rename_i time
        -- Told in the offset, the same local time would be a moment.
        refine absurd (toMoment_eq_ok.2 ⟨seconds, chosen, time, ?_, rfl, ?_⟩) (homeless _)
        · rw [toLocal_untimed untimed, found]
        · simpa only [Moment.CanTell, Moment.localSeconds_ofLocal] using tells
    | day homeless timeless found =>
        obtain ⟨time, finds⟩ := (exists_toLocal_iff untimed 0).2 ⟨⟨_, found⟩, whole⟩
        exact absurd finds (timeless time)

/-- Without a whole time of day it is midnight in universal time. -/
theorem eq_midnight (broken : ¬ WholeTime fields.Holds) : ∃ day, moment = .ofLocal day 0 0 0 := by
  cases comes with
  | moment found =>
      obtain ⟨offset, _, time, finds, _⟩ := toMoment_eq_ok.1 found
      exact absurd ((exists_toLocal_iff untimed offset).1 ⟨time, finds⟩).2 broken
  | «local» homeless found => exact absurd ((exists_toLocal_iff untimed 0).1 ⟨_, found⟩).2 broken
  | day homeless timeless found => exact ⟨_, rfl⟩

end Untimed

end ComesTo

/-- A day is enough. -/
theorem exists_comesTo {day : Int} (finds : fields.toDay = .ok day) :
    ∃ moment, fields.ComesTo moment := by
  by_cases settles : ∃ moment, fields.toMoment = .ok moment
  · obtain ⟨moment, found⟩ := settles
    exact ⟨moment, .moment found⟩
  · by_cases tells : ∃ time, fields.toLocal 0 = .ok time
    · obtain ⟨time, found⟩ := tells
      exact ⟨_, .local (not_exists.1 settles) found⟩
    · exact ⟨_, .day (not_exists.1 settles) (not_exists.1 tells) finds⟩

end DateFields

/-- A text read with a format is the moment that its fields come to. -/
theorem readMoment_eq_ok {format raw : String} (given : format ≠ "") {moment : Moment} :
    readMoment format raw = .ok moment ↔
      ∃ fields, readFields format raw = .ok fields ∧ fields.ComesTo moment := by
  have filled : format.isEmpty = false := by simpa using given
  rw [readMoment, filled]
  simp only [Bool.false_eq_true, if_false, Outcome.bind_eq_ok]
  refine exists_congr fun fields => and_congr_right fun _ => ?_
  cases settles : fields.toMoment with
  | ok settled =>
      constructor
      · rintro ⟨⟩
        exact .moment settles
      · intro comes
        cases comes with
        | moment found => exact settles.symm.trans found
        | «local» homeless => exact absurd settles (homeless _)
        | day homeless => exact absurd settles (homeless _)
  | error fault =>
      have homeless (moment : Moment) : fields.toMoment ≠ .ok moment := by
        rw [settles]
        exact nofun
      cases tells : fields.toLocal 0 with
      | ok time =>
          constructor
          · rintro ⟨⟩
            exact .local homeless tells
          · intro comes
            cases comes with
            | moment found => exact absurd found (homeless _)
            | «local» _ found =>
                cases tells.symm.trans found
                rfl
            | day _ timeless => exact absurd tells (timeless _)
      | error fault =>
          have timeless (time : DateFields.LocalTime) : fields.toLocal 0 ≠ .ok time := by
            rw [tells]
            exact nofun
          constructor
          · intro found
            obtain ⟨day, finds, same⟩ := Outcome.bind_eq_ok.1 found
            cases same
            exact .day homeless timeless finds
          · intro comes
            cases comes with
            | moment found => exact absurd found (homeless _)
            | «local» _ found => exact absurd found (timeless _)
            | day _ _ found => exact Outcome.bind_eq_ok.2 ⟨_, found, rfl⟩

/-- What becomes of the parts that were read, where no timestamp was among them. -/
structure Moment.Keeps (moment : Moment) (read : ClockPart → Prop) : Prop where
  time_iff : ∀ part, read part → part.IsTime →
    (moment.Shows part ↔ WholeTime read ∨ part.AtMidnight)
  offset_iff : ∀ seconds, read (.offset seconds) →
    (moment.offset = seconds ↔ WholeTime read ∧ moment.CanTell seconds ∨ seconds = 0)
  midnight : ¬ WholeTime read → ∃ day, moment = .ofLocal day 0 0 0

/-- Without a timestamp, a whole time of day is kept, and nothing else of the time. -/
theorem DateFields.ComesTo.keeps {fields : DateFields} {moment : Moment}
    (comes : fields.ComesTo moment) (inRange : fields.InRange) (untimed : fields.timestamp = none) :
    moment.Keeps fields.Holds where
  time_iff part held isTime := by
    rw [comes.shows_iff inRange held isTime.told, comes.settles_time_iff untimed isTime]
  offset_iff seconds held := by
    have shows_iff := comes.shows_iff inRange held (nofun : ClockKind.offset ≠ .timestamp)
    rw [comes.settles_offset_iff untimed held] at shows_iff
    exact shows_iff.trans (or_congr_right eq_comm)
  midnight := comes.eq_midnight untimed

/-- Every item that reads has read its parts.  A part of the time of day is found again in the
moment exactly when the time read is whole or the part is that of midnight; an offset, when the
time read is whole and can be told in it, or it is that of universal time.  Whatever else was read
of the time is lost, and a text is refused only if it gives no day. -/
theorem readMoment_keeps {format raw : String} (given : format ≠ "") :
    (∀ moment, readMoment format raw = .ok moment →
      (∀ item ∈ FormatItem.all format, ∀ kind ∈ item.kinds,
        ∃ part, part.kind = kind ∧ ReadsPart format raw part) ∧
      (∃ fields, readFields format raw = .ok fields ∧
        ∀ part, ReadsPart format raw part → part.kind ≠ .timestamp →
          (moment.Shows part ↔ fields.Settles part ∨ part.AtMidnight)) ∧
      ((∀ seconds, ¬ ReadsPart format raw (.offset seconds)) → moment.offset = 0)) ∧
    ((∀ seconds, ¬ ReadsPart format raw (.timestamp seconds)) →
      ((∃ moment, readMoment format raw = .ok moment) ↔
        ∃ fields, readFields format raw = .ok fields ∧ ∃ day, fields.toDay = .ok day) ∧
      ∀ moment, readMoment format raw = .ok moment → moment.Keeps (ReadsPart format raw)) := by
  refine ⟨fun moment found => ?_, fun unread => ⟨⟨?_, ?_⟩, fun moment found => ?_⟩⟩
  · obtain ⟨fields, scans, comes⟩ := (readMoment_eq_ok given).1 found
    refine ⟨fun item listed kind member => readFields_reads scans listed member,
      ⟨fields, scans, fun part reads told => ?_⟩, fun unread => ?_⟩
    · have held : fields.Holds part := (readFields_holds_iff scans part).2 reads
      exact comes.shows_iff (readFields_inRange scans) held told
    · exact comes.offset_eq_zero (readFields_offset_eq_none scans unread)
  · rintro ⟨moment, found⟩
    obtain ⟨fields, scans, comes⟩ := (readMoment_eq_ok given).1 found
    exact ⟨fields, scans, comes.exists_day (readFields_timestamp_eq_none scans unread)⟩
  · rintro ⟨fields, scans, day, finds⟩
    obtain ⟨moment, comes⟩ := DateFields.exists_comesTo finds
    exact ⟨moment, (readMoment_eq_ok given).2 ⟨fields, scans, comes⟩⟩
  · obtain ⟨fields, scans, comes⟩ := (readMoment_eq_ok given).1 found
    have holds : fields.Holds = ReadsPart format raw :=
      funext fun part => propext (readFields_holds_iff scans part)
    rw [← holds]
    exact comes.keeps (readFields_inRange scans) (readFields_timestamp_eq_none scans unread)

/-- A leap second is kept, and told in the offset that was read with it. -/
theorem readMoment_keeps_leap_second :
    let format := "%d.%m.%y %I:%M:%S%.f %p %z"
    let raw := "29.02.24 11:59:60.25 pm -0930"
    let moment : Moment := .ofLocal 19782 86399 1250000000 (-34200)
    readMoment format raw = .ok moment ∧ moment.Shows (.half 1) ∧ moment.Shows (.second 60) ∧
      moment.offset = -34200 := by
  have scans : readFields "%d.%m.%y %I:%M:%S%.f %p %z" "29.02.24 11:59:60.25 pm -0930" =
      .ok { DateFields.empty with
        yearMod100 := some 24, month := some 2, day := some 29, hourDiv12 := some 1
        hourMod12 := some 11, minute := some 59, second := some 60, nanosecond := some 250000000
        offset := some (-34200) } := by rfl
  intro format raw moment
  have found : readMoment format raw = .ok moment := Outcome.eq_ok_of_toOption (by decide +kernel)
  have read := readFields_holds_iff scans
  have half : ReadsPart format raw (.half 1) := (read _).1 rfl
  have second : ReadsPart format raw (.second 60) := (read _).1 rfl
  have whole : WholeTime (ReadsPart format raw) :=
    ⟨⟨1, half⟩, ⟨11, (read _).1 rfl⟩, ⟨59, (read _).1 rfl⟩, fun _ => ⟨60, second⟩⟩
  have untimed (seconds : Int) : ¬ ReadsPart format raw (.timestamp seconds) := fun reads =>
    nomatch (read _).2 reads
  have keeps := ((readMoment_keeps (by decide)).2 untimed).2 moment found
  exact ⟨found, (keeps.time_iff _ half trivial).2 (.inl whole),
    (keeps.time_iff _ second trivial).2 (.inl whole),
    (keeps.offset_iff _ ((read _).1 rfl)).2 (.inl ⟨whole, by decide +kernel⟩)⟩

/-- An hour without its minute is read and lost, and so is an offset without a time. -/
theorem hour_and_offset_read_and_lost :
    let moment : Moment := .ofLocal 19783 0 0 0
    (readMoment "%Y-%m-%d %H" "2024-03-01 14" = .ok moment ∧
      ReadsPart "%Y-%m-%d %H" "2024-03-01 14" (.hourOfHalf 2) ∧ ¬ moment.Shows (.hourOfHalf 2)) ∧
    readMoment "%Y-%m-%d %z" "2024-03-01 +0200" = .ok moment ∧
      ReadsPart "%Y-%m-%d %z" "2024-03-01 +0200" (.offset 7200) ∧
      ¬ moment.Shows (.offset 7200) := by
  intro moment
  have hour : readFields "%Y-%m-%d %H" "2024-03-01 14" = .ok { DateFields.empty with
      year := some 2024, month := some 3, day := some 1, hourDiv12 := some 1
      hourMod12 := some 2 } := by rfl
  have offset : readFields "%Y-%m-%d %z" "2024-03-01 +0200" = .ok { DateFields.empty with
      year := some 2024, month := some 3, day := some 1, offset := some 7200 } := by rfl
  exact ⟨⟨Outcome.eq_ok_of_toOption (by decide +kernel), (readFields_holds_iff hour _).1 rfl,
    by decide⟩, Outcome.eq_ok_of_toOption (by decide +kernel),
    (readFields_holds_iff offset _).1 rfl, by decide⟩

end Sluice
